import ChatHub.Proofs.LineRoundTrip
/-!
# ChatHub — the lines a reader accepts

Reading a line splits bracket groups off its front, one at a time, each up to the first closing
bracket, and then looks at what is left. This module describes the lines that reading accepts as
a grammar, with what it reads from each:

    [C][g₁]…[gₖ]S     C the name of a command, each gᵢ free of ']', and S either empty or a
                      blank, a dash, a blank and then any text

* **`splitGroups_eq_some_iff`** — the splitter takes off the bracket groups and stops at the
  first character that does not open one; an open group fails the whole line;
* **`contentOf_eq_some_iff`** — what may follow the groups (`Trailer`);
* **`decode_eq_some_iff`** — a line is read exactly when it has the shape above, and it reads as
  `reading`: the command, the time from the first group, the content, and by command the
  sender, terminal or online count;
* **`isProtocol_iff`** — a line is of the protocol exactly when it opens with a bracketed
  command name; with the above, every line that is read is of the protocol (`line_grammar`).

Reading is total: there is no input on which it fails other than by answering none.
-/

namespace ChatHub.Command

theorem ofName?_eq_some_iff {s : String} {c : Command} : ofName? s = some c ↔ s = c.name := by
  constructor
  · intro h
    rw [ofName?] at h
    have hname := List.find?_some h
    simp only [beq_iff_eq] at hname
    exact hname.symm
  · rintro rfl
    exact ofName?_name c

theorem not_mem_name (c : Command) : ']' ∉ c.name.toList := by
  cases c <;> decide

end ChatHub.Command

namespace ChatHub.Line

open Text

/-! ## The grammar -/

/-- A bracket group holding a text as it stands. -/
def bracket (g : List Char) : List Char :=
  '[' :: g ++ [']']

/-- What may follow the groups of a line, with the content it carries: nothing, and no content;
or a blank, a dash, a blank and then the content. -/
def Trailer (rest content : List Char) : Prop :=
  (rest = [] ∧ content = []) ∨ ∃ a b, rest = a :: '-' :: b :: content ∧ isSpace a ∧ isSpace b

/-- The message a line of command `C` carries, with `gs` the groups after the command's and
`content` its content. The time is the first group read as a 64-bit number, and zero when that
group is missing or is no number. A LOGIN, LOGOUT or FLOWER has the first nine characters of the
second group as its sender and the terminal the third group names; a CHAT has the sender alone; a
SYSTEM notice is from the hub, with the second group read as a 32-bit number for the online
count. Every other field is left empty. -/
def reading (C : Command) (gs : List (List Char)) (content : List Char) : Message :=
  let time := UInt64.ofNat ((gs[0]?.bind (Decimal.read? UInt64.size)).getD 0)
  let sender := String.ofList ((gs.getD 1 []).take 9)
  match C with
  | .login | .logout | .flower =>
    { command := C, sendingTime := time, content := String.ofList content, sender,
      terminal := Terminal.ofName? (String.ofList (gs.getD 2 [])) }
  | .chat => { command := .chat, sendingTime := time, content := String.ofList content, sender }
  | .system =>
    { command := .system, sendingTime := time, content := String.ofList content,
      sender := "admin",
      onlineCount := UInt32.ofNat ((gs[1]?.bind (Decimal.read? UInt32.size)).getD 0) }

/-! ## One group -/

theorem closeGroup_eq_some_iff {cs g r : List Char} :
    closeGroup cs = some (g, r) ↔ cs = g ++ ']' :: r ∧ ']' ∉ g := by
  constructor
  · intro h
    induction cs generalizing g with
    | nil => simp [closeGroup] at h
    | cons c rest ih =>
      simp only [closeGroup] at h
      split at h
      · next hc =>
        simp only [Option.some.injEq, Prod.mk.injEq] at h
        obtain ⟨rfl, rfl⟩ := h
        simp [hc]
      · next hc =>
        -- a character that is not the bracket stays in the group
        obtain ⟨⟨g', r'⟩, hgr, he⟩ := Option.map_eq_some_iff.1 h
        simp only [Prod.mk.injEq] at he
        obtain ⟨rfl, rfl⟩ := he
        obtain ⟨rfl, hg'⟩ := ih hgr
        simp [hg', Ne.symm hc]
  · rintro ⟨rfl, hg⟩
    exact closeGroup_append hg r

/-! ## A run of groups -/

theorem splitGroups_bracket {g : List Char} (h : ']' ∉ g) (r : List Char) :
    splitGroups (bracket g ++ r) = (splitGroups r).map fun (gs, t) => (g :: gs, t) := by
  simp only [bracket, List.cons_append, List.append_assoc]
  rw [splitGroups]
  split
  · next g' after hcl =>
    rw [closeGroup_append h] at hcl
    simp only [Option.some.injEq, Prod.mk.injEq] at hcl
    obtain ⟨rfl, rfl⟩ := hcl
    rfl
  · next hcl => simp [closeGroup_append h] at hcl

/-- **The groups of a line.** The splitter takes off a run of bracket groups, each free of closing
brackets, and stops at the first character that does not open a group. -/
theorem splitGroups_eq_some_iff {cs t : List Char} {gs : List (List Char)} :
    splitGroups cs = some (gs, t) ↔
      cs = gs.flatMap bracket ++ t ∧ (∀ g ∈ gs, ']' ∉ g) ∧ t.head? ≠ some '[' := by
  constructor
  · intro h
    induction cs using splitGroups.induct generalizing gs with
    | case1 rest g after hcl _ ih =>
      -- a group closes, and the split goes on after it
      obtain ⟨rfl, hg⟩ := closeGroup_eq_some_iff.1 hcl
      have hline : '[' :: (g ++ ']' :: after) = bracket g ++ after := by simp [bracket]
      rw [hline, splitGroups_bracket hg] at h
      obtain ⟨⟨gs', t'⟩, hrest, he⟩ := Option.map_eq_some_iff.1 h
      simp only [Prod.mk.injEq] at he
      obtain ⟨rfl, rfl⟩ := he
      obtain ⟨rfl, hgs', ht⟩ := ih hrest
      refine ⟨by simp [bracket], ?_, ht⟩
      rintro g' (_ | ⟨_, hg'⟩)
      · exact hg
      · exact hgs' g' hg'
    | case2 rest hcl =>
      -- a group left open fails the line
      rw [splitGroups] at h
      split at h
      · next hcl' =>
        rw [hcl] at hcl'
        cases hcl'
      · cases h
    | case3 cs hcs =>
      rw [splitGroups_of_head (fun hh => ?_)] at h
      · simp only [Option.some.injEq, Prod.mk.injEq] at h
        obtain ⟨rfl, rfl⟩ := h
        refine ⟨rfl, by simp, fun hh => ?_⟩
        obtain ⟨rest, rfl⟩ := List.head?_eq_some_iff.1 hh
        exact hcs rest rfl
      · obtain ⟨rest, rfl⟩ := List.head?_eq_some_iff.1 hh
        exact hcs rest rfl
  · rintro ⟨rfl, hgs, ht⟩
    induction gs with
    | nil => exact splitGroups_of_head ht
    | cons g gs ih =>
      rw [List.flatMap_cons, List.append_assoc,
        splitGroups_bracket (hgs g List.mem_cons_self), ih fun g' hg' => hgs g' (.tail _ hg')]
      rfl

/-! ## What follows the groups -/

theorem Trailer.head?_ne {rest content : List Char} (h : Trailer rest content) :
    rest.head? ≠ some '[' := by
  rcases h with ⟨rfl, -⟩ | ⟨a, b, rfl, ha, -⟩
  · simp
  · -- a blank is not an opening bracket
    intro he
    simp only [List.head?_cons, Option.some.injEq] at he
    subst he
    exact absurd ha (by decide)

/-- **What follows the groups.** The rest of a line is read exactly when it is a `Trailer`, and
its content is then the trailer's. -/
theorem contentOf_eq_some_iff {rest content : List Char} :
    contentOf rest = some content ↔ Trailer rest content := by
  rw [Trailer]
  match rest with
  | [] =>
    simp only [contentOf, Option.some.injEq, true_and, reduceCtorEq, false_and, exists_false,
      or_false]
    exact eq_comm
  | [_] | [_, _] => simp [contentOf]
  | a :: d :: b :: s =>
    simp only [contentOf, List.cons.injEq, reduceCtorEq, false_and, false_or]
    constructor
    · intro h
      split at h
      · next hs =>
        cases h
        exact ⟨a, b, ⟨rfl, hs.2.1, rfl, rfl⟩, hs.1, hs.2.2⟩
      · cases h
    · rintro ⟨a', b', ⟨rfl, rfl, rfl, rfl⟩, ha, hb⟩
      simp [ha, hb]

/-! ## The command -/

/-- **The command of a line.** A line opens with a command exactly when it opens with that
command's name in brackets. -/
theorem leadingCommand_eq_some_iff {cs : List Char} {C : Command} :
    leadingCommand cs = some C ↔ ∃ r, cs = bracket C.name.toList ++ r := by
  constructor
  · intro h
    unfold leadingCommand at h
    split at h
    · next rest =>
      split at h
      · next name after hcl =>
        obtain ⟨rfl, -⟩ := closeGroup_eq_some_iff.1 hcl
        have hname : name = C.name.toList := by
          rw [← Command.ofName?_eq_some_iff.1 h, String.toList_ofList]
        exact ⟨after, by simp [bracket, hname]⟩
      · cases h
    · cases h
  · rintro ⟨r, rfl⟩
    have hgroup : bracket C.name.toList = group C.name.toList := by
      cases C <;> rfl
    rw [hgroup]
    exact leadingCommand_group C r

theorem isProtocol_iff (L : String) :
    isProtocol L = true ↔ ∃ (C : Command) (rest : List Char), L.toList = bracket C.name.toList ++ rest := by
  simp only [isProtocol, Option.isSome_iff_exists, leadingCommand_eq_some_iff]

/-! ## The message -/

theorem read?_getD (bound : Nat) (gs : List (List Char)) (i : Nat) :
    Decimal.read? bound (gs.getD i []) = gs[i]?.bind (Decimal.read? bound) := by
  rw [List.getD_eq_getElem?_getD]
  cases gs[i]? <;> rfl

/-- Reading a line is, step by step: its command, its groups, the rest after them, and the message
`reading` builds from the groups after the command's. -/
theorem decodeChars_eq (cs : List Char) :
    decodeChars cs = (leadingCommand cs).bind fun C => (splitGroups cs).bind fun (groups, rest) =>
      (contentOf rest).map fun content => reading C groups.tail content := by
  unfold decodeChars
  cases leadingCommand cs with
  | none => rfl
  | some C =>
    cases splitGroups cs with
    | none => rfl
    | some p =>
      obtain ⟨groups, rest⟩ := p
      cases hc : contentOf rest with
      | none => simp [hc]
      | some content =>
        cases C <;>
          simp [hc, reading, nickname, nicknameLimit, hubSender, ← read?_getD]

/-- **The lines a reader accepts.** A line is read exactly when it is a bracketed command name,
a run of bracket groups free of closing brackets, and a `Trailer`; it then reads as the message
`reading` builds from those groups and the trailer's content. -/
theorem decode_eq_some_iff {L : String} {m : Message} :
    decode L = some m ↔ ∃ (C : Command) (gs : List (List Char)) (rest content : List Char),
      L.toList = bracket C.name.toList ++ gs.flatMap bracket ++ rest ∧ (∀ g ∈ gs, ']' ∉ g) ∧
      Trailer rest content ∧ m = reading C gs content := by
  rw [decode, decodeChars_eq]
  constructor
  · intro h
    obtain ⟨C, hC, h⟩ := Option.bind_eq_some_iff.1 h
    obtain ⟨⟨groups, rest⟩, hsplit, h⟩ := Option.bind_eq_some_iff.1 h
    obtain ⟨content, hcontent, rfl⟩ := Option.map_eq_some_iff.1 h
    -- the command's group is the first group split off
    obtain ⟨r, hr⟩ := leadingCommand_eq_some_iff.1 hC
    rw [hr, splitGroups_bracket (Command.not_mem_name C)] at hsplit
    obtain ⟨⟨gs, t⟩, hgroups, he⟩ := Option.map_eq_some_iff.1 hsplit
    simp only [Prod.mk.injEq] at he
    obtain ⟨rfl, rfl⟩ := he
    obtain ⟨rfl, hgs, -⟩ := splitGroups_eq_some_iff.1 hgroups
    exact ⟨C, gs, t, content, by rw [hr, List.append_assoc], hgs,
      contentOf_eq_some_iff.1 hcontent, rfl⟩
  · rintro ⟨C, gs, rest, content, hL, hgs, htrail, rfl⟩
    have hC : leadingCommand L.toList = some C :=
      leadingCommand_eq_some_iff.2 ⟨_, by rw [hL, List.append_assoc]⟩
    have hsplit : splitGroups L.toList = some (C.name.toList :: gs, rest) := by
      refine splitGroups_eq_some_iff.2 ⟨by simp [hL], ?_, htrail.head?_ne⟩
      rintro g (_ | ⟨_, hg⟩)
      · exact Command.not_mem_name C
      · exact hgs g hg
    simp [hC, hsplit, contentOf_eq_some_iff.2 htrail]

-- the blanks around the dash may be any Unicode blanks, here an ideographic and an em space
example : decode "[FLOWER][12][bob][Console]\u3000-\u2003roses" =
    some (reading .flower ["12".toList, "bob".toList, "Console".toList] "roses".toList) := by
  decide +kernel

theorem isProtocol_of_decode {L : String} (h : (decode L).isSome = true) : isProtocol L = true := by
  obtain ⟨m, hm⟩ := Option.isSome_iff_exists.1 h
  obtain ⟨C, gs, rest, -, hL, -⟩ := decode_eq_some_iff.1 hm
  exact (isProtocol_iff L).2 ⟨C, gs.flatMap bracket ++ rest, by rw [hL, List.append_assoc]⟩

/-- **The grammar of a line.** Reading a line answers a message exactly when the line is a
bracketed command name, a run of bracket groups free of closing brackets, and either nothing or a
blank, a dash, a blank and the content; the message is `reading` of those groups and that content.
A line is of the protocol exactly when it opens with a bracketed command name, so every line that
is read is of the protocol. -/
theorem line_grammar (L : String) :
    (∀ m, decode L = some m ↔ ∃ (C : Command) (gs : List (List Char)) (rest content : List Char),
      L.toList = bracket C.name.toList ++ gs.flatMap bracket ++ rest ∧ (∀ g ∈ gs, ']' ∉ g) ∧
      Trailer rest content ∧ m = reading C gs content) ∧
    (isProtocol L = true ↔
      ∃ (C : Command) (rest : List Char), L.toList = bracket C.name.toList ++ rest) ∧
    ((decode L).isSome = true → isProtocol L = true) :=
  ⟨fun _ => decode_eq_some_iff, isProtocol_iff L, isProtocol_of_decode⟩

end ChatHub.Line
