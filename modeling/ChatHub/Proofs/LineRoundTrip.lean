import ChatHub.Line
/-!
# ChatHub — what a message keeps through its text line

A line is written from a message group by group and read back by splitting bracket groups off
its front. This module proves that the two agree for every message whose sender holds no closing
bracket (and for every SYSTEM and LOGOUT, which write no sender):

* **`decode_encode`** — reading the line of `m` gives `lineForm m`: the command and time, the
  online count of a SYSTEM notice, the sender cut to nine characters, the content, and the
  terminal of a FLOWER, with carriage returns and line feeds turned into spaces.
* **`encode_line_form`** — every line is one line (no carriage return or line feed) that opens
  with the bracketed command name, and the round trip above.

A closing bracket inside a sender ends its group early, since the line form has no escape, so
such a line reads back as something else or not at all (`decode_encode_bracket_sender`).
-/

namespace ChatHub.Text.Decimal

/-! ## Decimal numbers read back -/

theorem digit?_digitChar {d : Nat} (h : d < 10) : digit? d.digitChar = some d := by
  have hd := Nat.toNat_digitChar_of_lt_ten h
  have hrange : '0' ≤ d.digitChar ∧ d.digitChar ≤ '9' := by
    simp only [Char.le_def, UInt32.le_iff_toNat_le]
    change '0'.toNat ≤ d.digitChar.toNat ∧ d.digitChar.toNat ≤ '9'.toNat
    simp only [hd, Char.reduceToNat]
    omega
  rw [digit?, if_pos hrange, hd]
  simp

theorem digitsValue?_append (xs ys : List Char) (acc : Nat) :
    digitsValue? (xs ++ ys) acc = (digitsValue? xs acc).bind (digitsValue? ys) := by
  induction xs generalizing acc with
  | nil => rfl
  | cons c xs ih =>
    simp only [List.cons_append, digitsValue?]
    split <;> simp [ih]

/-- The digits of a number read back from the left give the number. Induction follows the
digits: the last one is the remainder by ten, the others are the digits of the quotient. -/
theorem digitsValue?_write (n : Nat) : digitsValue? (write n) 0 = some n := by
  induction n using Nat.strongRecOn with
  | ind n ih =>
    rw [write, Nat.toDigits_eq_if (by decide)]
    split
    · next h => simp [digitsValue?, digit?_digitChar h]
    · next h =>
      have hq : digitsValue? (write (n / 10)) 0 = some (n / 10) := ih (n / 10) (by omega)
      rw [write] at hq
      rw [digitsValue?_append, hq]
      simp [digitsValue?, digit?_digitChar (Nat.mod_lt n (by decide))]
      omega

theorem isDigit_of_mem_write {n : Nat} {c : Char} (h : c ∈ write n) : c.isDigit = true :=
  Nat.isDigit_of_mem_toDigits (by decide) (by decide) h

/-- **Numbers read back.** A number below the bound of its field is read back from its digits. -/
theorem read?_write {bound n : Nat} (h : n < bound) : read? bound (write n) = some n := by
  -- the digits never start with the plus sign that `read?` first strips
  have hhead : ∀ rest, write n ≠ '+' :: rest := by
    intro rest he
    have hplus := isDigit_of_mem_write (n := n) (c := '+') (by rw [he]; exact List.mem_cons_self ..)
    exact absurd hplus (by decide)
  unfold read?
  split
  · next rest he => exact absurd he (hhead rest)
  · dsimp only
    split
    · next hnil => exact absurd hnil Nat.toDigits_ne_nil
    · rw [digitsValue?_write]
      exact if_pos h

end ChatHub.Text.Decimal

namespace ChatHub.Line

open Text

/-! ## The normal form of a message -/

/-- What a message keeps through its line: the command and the time; the online count of a
SYSTEM notice; the hub's name for a SYSTEM notice, nothing for a LOGOUT and otherwise the
sender's first nine characters; the content unless it is blank; the terminal of a FLOWER.
Carriage returns and line feeds become spaces, and the receiver is never written. -/
def lineForm (m : Message) : Message :=
  { command := m.command
    sendingTime := m.sendingTime
    onlineCount := if m.command = .system then m.onlineCount else 0
    sender :=
      match m.command with
      | .system => hubSender
      | .logout => ""
      | .login | .chat | .flower => String.ofList ((flatten m.sender.toList).take nicknameLimit)
    content := if isBlank m.content.toList then "" else String.ofList (flatten m.content.toList)
    terminal := if m.command = .flower then m.terminal else none }

/-! ## Flattened values -/

theorem ne_break_of_mem_flatten {cs : List Char} {c : Char} (h : c ∈ flatten cs) :
    c ≠ '\r' ∧ c ≠ '\n' := by
  simp only [flatten, List.mem_map] at h
  obtain ⟨d, -, rfl⟩ := h
  split <;> grind

theorem not_mem_flatten {cs : List Char} (h : ']' ∉ cs) : ']' ∉ flatten cs := by
  simp only [flatten, List.mem_map, not_exists, not_and]
  intro c hc
  split <;> grind

theorem flatten_of_forall {cs : List Char} (h : ∀ c ∈ cs, c ≠ '\r' ∧ c ≠ '\n') :
    flatten cs = cs := by
  simp only [flatten]
  conv => rhs; rw [← List.map_id cs]
  apply List.map_congr_left
  intro c hc
  simp [h c hc]

theorem flatten_write (n : Nat) : flatten (Decimal.write n) = Decimal.write n := by
  apply flatten_of_forall
  intro c hc
  have := Decimal.isDigit_of_mem_write hc
  constructor <;> rintro rfl <;> simp at this

theorem not_mem_write (n : Nat) : ']' ∉ Decimal.write n := by
  intro hc
  have := Decimal.isDigit_of_mem_write hc
  simp at this

/-! ## Splitting groups off a written line -/

/-- A group without a closing bracket is closed by the bracket that follows it. -/
theorem closeGroup_append {g : List Char} (h : ']' ∉ g) (r : List Char) :
    closeGroup (g ++ ']' :: r) = some (g, r) := by
  induction g with
  | nil => simp [closeGroup]
  | cons c g ih =>
    have hc : c ≠ ']' := fun e => h (e ▸ List.mem_cons_self ..)
    simp [closeGroup, hc, ih (fun hm => h (List.mem_cons_of_mem _ hm))]

/-- **One written group splits off.** A written group whose value has no closing bracket is
split off whole, and the split goes on with what follows it. -/
theorem splitGroups_group {g : List Char} (h : ']' ∉ g) (r : List Char) :
    splitGroups (group g ++ r) = (splitGroups r).map fun (gs, t) => (flatten g :: gs, t) := by
  simp only [group, List.cons_append, List.append_assoc]
  rw [splitGroups]
  split
  · next g' after hcl =>
    rw [closeGroup_append (not_mem_flatten h)] at hcl
    simp only [Option.some.injEq, Prod.mk.injEq] at hcl
    obtain ⟨rfl, rfl⟩ := hcl
    rfl
  · next hcl => simp [closeGroup_append (not_mem_flatten h)] at hcl

theorem splitGroups_of_head {cs : List Char} (h : cs.head? ≠ some '[') :
    splitGroups cs = some ([], cs) := by
  rw [splitGroups]
  rintro rest rfl
  simp at h

theorem contentPart_head (cs : List Char) : (contentPart cs).head? ≠ some '[' := by
  unfold contentPart
  split <;> simp

theorem contentOf_contentPart (cs : List Char) :
    contentOf (contentPart cs) = some (if isBlank cs then [] else flatten cs) := by
  unfold contentPart
  split
  · rfl
  · simp [contentOf, isSpace]

theorem leadingCommand_group (c : Command) (r : List Char) :
    leadingCommand (group c.name.toList ++ r) = some c := by
  have hname : ']' ∉ c.name.toList := by cases c <;> decide
  have hflat : flatten c.name.toList = c.name.toList := by cases c <;> rfl
  simp only [group, List.cons_append, List.append_assoc, leadingCommand]
  rw [closeGroup_append (not_mem_flatten hname), hflat]
  simp only [String.ofList_toList, Command.ofName?_name]

theorem ofName?_terminalName (t : Option Terminal) :
    Terminal.ofName? ((t.map Terminal.name).getD "") = t := by
  cases t with
  | none => rfl
  | some k => exact Terminal.ofName?_name k

/-! ## The round trip -/

theorem ofList_content (cs : List Char) :
    String.ofList (if isBlank cs then [] else flatten cs) =
      if isBlank cs then "" else String.ofList (flatten cs) := by
  split <;> rfl

/-- **Reading a written line.** A line read back gives the normal form of the message it was
written from, unless the message names a sender with a closing bracket in it. The proof splits
the command and time groups off first; what follows them depends on the command. -/
theorem decode_encode (m : Message)
    (h : m.command = .system ∨ m.command = .logout ∨ ']' ∉ m.sender.toList) :
    decode (encode m) = some (lineForm m) := by
  have hname : ']' ∉ m.command.name.toList := by cases m.command <;> decide
  have hrest := splitGroups_of_head (contentPart_head m.content.toList)
  have htime := Decimal.read?_write (UInt64.toNat_lt_size m.sendingTime)
  simp only [decode, encode, String.toList_ofList, encodeChars, List.append_assoc, decodeChars,
    leadingCommand_group, splitGroups_group hname, splitGroups_group (not_mem_write _)]
  rcases m with ⟨_ | _ | _ | _ | _, t, n, sender, receiver, content, terminal⟩
  case system =>
    have hcount := Decimal.read?_write (UInt32.toNat_lt_size n)
    simp [fieldGroups, splitGroups_group (not_mem_write n.toNat), hrest, contentOf_contentPart,
      lineForm, flatten_write, htime, hcount, ofList_content]
  case logout =>
    simp [fieldGroups, hrest, contentOf_contentPart, lineForm, flatten_write, htime, nickname,
      ofList_content, Terminal.ofName?]
  case login =>
    have hsender : ']' ∉ sender.toList := by simpa using h
    simp [fieldGroups, splitGroups_group hsender, hrest, contentOf_contentPart, lineForm,
      flatten_write, htime, nickname, ofList_content, Terminal.ofName?]
  case chat =>
    have hsender : ']' ∉ sender.toList := by simpa using h
    simp [fieldGroups, splitGroups_group hsender, hrest, contentOf_contentPart, lineForm,
      flatten_write, htime, nickname, ofList_content]
  case flower =>
    have hsender : ']' ∉ sender.toList := by simpa using h
    -- the terminal group holds a terminal name or nothing: no bracket and no line break
    have hterm : ']' ∉ ((terminal.map Terminal.name).getD "").toList := by
      cases terminal with
      | none => decide
      | some k => cases k <;> decide
    have hflat : flatten ((terminal.map Terminal.name).getD "").toList =
        ((terminal.map Terminal.name).getD "").toList := by
      cases terminal with
      | none => rfl
      | some k => cases k <;> rfl
    simp [fieldGroups, splitGroups_group hsender, splitGroups_group hterm, hflat, hrest,
      contentOf_contentPart, lineForm, flatten_write, htime, nickname, ofList_content,
      ofName?_terminalName]

/-! ## One line, opened by its command -/

theorem noBreak_group (cs : List Char) : ∀ c ∈ group cs, c ≠ '\r' ∧ c ≠ '\n' := by
  intro c hc
  simp only [group, List.cons_append, List.mem_cons, List.mem_append, List.not_mem_nil,
    or_false] at hc
  rcases hc with rfl | hc | rfl
  · decide
  · exact ne_break_of_mem_flatten hc
  · decide

theorem noBreak_contentPart (cs : List Char) : ∀ c ∈ contentPart cs, c ≠ '\r' ∧ c ≠ '\n' := by
  intro c hc
  unfold contentPart at hc
  split at hc
  · simp at hc
  · simp only [List.mem_cons] at hc
    rcases hc with rfl | rfl | rfl | hc
    · decide
    · decide
    · decide
    · exact ne_break_of_mem_flatten hc

theorem noBreak_encodeChars (m : Message) : ∀ c ∈ encodeChars m, c ≠ '\r' ∧ c ≠ '\n' := by
  intro c hc
  simp only [encodeChars, List.mem_append] at hc
  rcases hc with ((hc | hc) | hc) | hc
  · exact noBreak_group _ c hc
  · exact noBreak_group _ c hc
  · unfold fieldGroups at hc
    split at hc
    · exact noBreak_group _ c hc
    · exact noBreak_group _ c hc
    · rcases List.mem_append.1 hc with hc | hc
      · exact noBreak_group _ c hc
      · exact noBreak_group _ c hc
    · exact noBreak_group _ c hc
    · simp at hc
  · exact noBreak_contentPart _ c hc

/-- **The line form of a message.** Every line is a single line that opens with the bracketed
name of its command, and it reads back as the normal form of its message whenever the sender it
writes holds no closing bracket. -/
theorem encode_line_form (m : Message) :
    (∀ c ∈ (encode m).toList, c ≠ '\r' ∧ c ≠ '\n') ∧
    ('[' :: m.command.name.toList ++ [']']) <+: (encode m).toList ∧
    (m.command = .system ∨ m.command = .logout ∨ ']' ∉ m.sender.toList →
      decode (encode m) = some (lineForm m)) := by
  have hflat : flatten m.command.name.toList = m.command.name.toList := by
    cases m.command <;> rfl
  refine ⟨?_, ?_, decode_encode m⟩
  · rw [encode, String.toList_ofList]
    exact noBreak_encodeChars m
  · rw [encode, String.toList_ofList, encodeChars]
    have hpre : group m.command.name.toList = '[' :: m.command.name.toList ++ [']'] := by
      rw [group, hflat]
    rw [← hpre, List.append_assoc, List.append_assoc]
    exact List.prefix_append _ _

theorem encode_line_form_flower :
    ((Message.flower "frank" .webSocket 77).command = .system ∨
      (Message.flower "frank" .webSocket 77).command = .logout ∨
      ']' ∉ (Message.flower "frank" .webSocket 77).sender.toList) ∧
    decode (encode (Message.flower "frank" .webSocket 77)) =
      some (lineForm (Message.flower "frank" .webSocket 77)) :=
  have hsender : ']' ∉ (Message.flower "frank" .webSocket 77).sender.toList := by decide
  ⟨Or.inr (Or.inr hsender), (encode_line_form _).2.2 (Or.inr (Or.inr hsender))⟩

/-- A closing bracket in a sender ends its group early: the line of a CHAT from "a]b" is not
read back at all. -/
theorem decode_encode_bracket_sender : decode (encode (Message.chat "a]b" "" 0)) = none := by
  decide +kernel

end ChatHub.Line
