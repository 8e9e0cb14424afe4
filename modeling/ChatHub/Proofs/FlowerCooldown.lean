import ChatHub.Proofs.Status
import ChatHub.Proofs.LineRoundTrip
/-!
# ChatHub — the flower cooldown

A session may send a FLOWER at most once a minute. The decision reads the time of the session's
last accepted flower (`Registry.flowerAllowed`), the acceptance writes it
(`Registry.recordFlower`), and the session itself is made and ended by other steps. This module
follows that time through every step and every run:

* **`acceptsFlower_iff`** — a FLOWER is broadcast exactly when the room takes it: its sender has
  a session whose cooldown has run out;
* **`stepLog_lastFlower?`** — after any step, a connection with a session has the step's time as
  its last flower when the step was its accepted FLOWER, keeps the one it had otherwise, and has
  none when it logged in during the step;
* **`step_flower_refused`** — a FLOWER too soon pushes the reply to its sender alone, and evicts
  the sender when that push fails;
* **`flowers_spaced`** — along any run of the router in which a connection keeps its session,
  two of its accepted flowers are a full cooldown apart, whatever the clock does in between;
* **`flower_cooldown`** — all of it, for every connection of every reachable room.

"Accepted" is read off what the step pushes: a step accepts a FLOWER when one of its pushes is a
flower, as the message or as its line.
-/

namespace ChatHub.Room

/-! ## What an item carries -/

/-- The command an item carries: a message's own, the one a line opens with, none for a close. -/
def Outbound.command? : Outbound → Option Command
  | .message m => some m.command
  | .text line => Line.leadingCommand line.toList
  | .close => none

theorem leadingCommand_encode (m : Message) :
    Line.leadingCommand (Line.encode m).toList = some m.command := by
  rw [Line.encode, String.toList_ofList, Line.encodeChars, List.append_assoc, List.append_assoc,
    Line.leadingCommand_group]

theorem command?_itemFor (m : Message) (native : Bool) :
    (itemFor m native).command? = some m.command := by
  unfold itemFor
  split
  · rfl
  · exact leadingCommand_encode m

theorem command?_cooldownReply (online : UInt32) (seconds : Nat) (now : UInt64) :
    (Outbound.text (Line.encode (cooldownReply online seconds now))).command? = some .system := by
  rw [Outbound.command?, leadingCommand_encode]
  rfl

/-- The pushes of an eviction cascade are closes and the hub's notices: never a flower. -/
theorem command?_popSends {now : UInt64} {pops : List Pop} {p : PeerId × Outbound}
    (hp : p ∈ popSends now pops) : p.2.command? ≠ some .flower := by
  simp only [popSends, List.mem_flatMap, List.mem_cons] at hp
  obtain ⟨⟨x, d?⟩, -, rfl | hp⟩ := hp
  · simp [Outbound.command?]
  · cases d? with
    | none => simp at hp
    | some d =>
      simp only [Option.map_some, Option.getD_some, Departure.sends, deliveries, List.mem_map] at hp
      obtain ⟨s, -, rfl⟩ := hp
      rw [command?_itemFor]
      simp [Departure.notice, Message.system]

/-! ## The last flower in the registry -/

theorem Registry.isClosed_eq_false_of_mem {r : Registry} (hr : r.Consistent) {c : PeerId}
    (hc : c ∈ r.ids) : r.isClosed c = false :=
  Bool.eq_false_iff.2 fun h => hr.not_closed_of_mem c hc (by simpa [Registry.isClosed] using h)

theorem Registry.ids_recordFlower (r : Registry) (c : PeerId) (time : UInt64) :
    (r.recordFlower c time).ids = r.ids :=
  Registry.ids_map fun s => by split <;> rfl

theorem Registry.session?_recordFlower (r : Registry) (c x : PeerId) (time : UInt64) :
    (r.recordFlower c time).session? x =
      (r.session? x).map fun s => if s.peer == c then { s with lastFlower := some time } else s := by
  simp only [Registry.session?, Registry.recordFlower, List.find?_map]
  congr 2
  funext s
  simp only [Function.comp_apply]
  split <;> rfl

theorem Registry.lastFlower?_recordFlower (r : Registry) (c x : PeerId) (time : UInt64) :
    (r.recordFlower c time).lastFlower? x =
      if x = c ∧ x ∈ r.ids then some time else r.lastFlower? x := by
  rw [Registry.lastFlower?, Registry.session?_recordFlower]
  cases hs : r.session? x with
  | none =>
    have hx : x ∉ r.ids := by
      rw [← Registry.session?_isSome_iff, hs]
      simp
    simp [Registry.lastFlower?, hs, hx]
  | some s =>
    obtain ⟨hmem, rfl⟩ := Registry.mem_ids_of_session? hs
    have hx : s.peer ∈ r.ids := List.mem_map_of_mem hmem
    by_cases hc : s.peer = c
    · subst hc
      simp [hx]
    · simp [Registry.lastFlower?, hs, hc]

/-- **The cooldown rule.** A flower is allowed when it is the first, or when the last one was a
full cooldown ago; a clock that went back counts as no time passed, so it refuses. -/
theorem Registry.flowerAllowed_iff (r : Registry) (c : PeerId) (time : UInt64) :
    r.flowerAllowed c time = true ↔
      r.lastFlower? c = none ∨ ∃ last, r.lastFlower? c = some last ∧
        last.toNat + flowerCooldown ≤ time.toNat := by
  unfold Registry.flowerAllowed
  cases r.lastFlower? c with
  | none => simp
  | some last =>
    simp only [reduceCtorEq, Option.some.injEq, exists_eq_left', false_or, decide_eq_true_iff]
    unfold flowerCooldown
    omega

/-- A flower allowed after an earlier one comes a full cooldown after it. -/
theorem Registry.cooldown_of_flowerAllowed {r : Registry} {c : PeerId} {time last : UInt64}
    (h : r.flowerAllowed c time = true) (hlast : r.lastFlower? c = some last) :
    last.toNat + flowerCooldown ≤ time.toNat := by
  rw [Registry.flowerAllowed_iff, hlast] at h
  obtain ⟨l, hl, hcool⟩ := h.resolve_left (by simp)
  cases Option.some.inj hl
  exact hcool

/-! ## A FLOWER step -/

namespace Step

/-- Whether the room takes a step as an accepted flower: a FLOWER from a connection with a
session whose cooldown has run out. -/
def takesFlower (st : Step) (r : Registry) : Bool :=
  st.message?.any (·.command == .flower) && r.ids.contains st.peer &&
    r.flowerAllowed st.peer st.now

theorem flowerAllowed_of_takesFlower {st : Step} {r : Registry} (h : st.takesFlower r = true) :
    r.flowerAllowed st.peer st.now = true := by
  simp only [takesFlower, Bool.and_eq_true] at h
  exact h.2

end Step

theorem stepLog_of_message? {room : Room} {st : Step} {msg : Message}
    (h : st.message? = some msg) : room.stepLog st = room.messageLog st.peer msg st.now := by
  cases st with
  | message id m now =>
    cases h
    rfl
  | text id line now =>
    simp only [Step.message?] at h
    simp [stepLog, h, Step.peer, Step.now]
  | disconnect => cases h

theorem step_of_message? {room : Room} {st : Step} {msg : Message} (h : st.message? = some msg) :
    room.step st = room.handleAt st.peer msg st.now := by
  cases st with
  | message id m now =>
    cases h
    rfl
  | text id line now =>
    simp only [Step.message?] at h
    simp [step, handleText, h, Step.peer, Step.now]
  | disconnect => cases h

/-- A FLOWER from a connection with a session: accepted, it records the flower and gives every
session its copy; too soon, it leaves the registry and replies to the sender alone. -/
theorem messageLog_flower {room : Room} (hr : room.registry.Consistent) {c : PeerId}
    {msg : Message} {now : UInt64} (hcmd : msg.command = .flower) {origin : Session}
    (ho : room.registry.session? c = some origin) :
    room.messageLog c msg now =
      if room.registry.flowerAllowed c now then
        .cascading room.accepts now (room.registry.recordFlower c now).active
          (room.registry.recordFlower c now)
          (deliveries (copyFor origin (flowerMessage origin now))
            (room.registry.recordFlower c now).active) none
      else
        .cascading room.accepts now room.registry.active room.registry
          [(c, .text (Line.encode (cooldownReply (online room.registry.onlineCount)
            (secondsLeft (origin.lastFlower.getD now) now) now)))] none := by
  obtain ⟨hmem, hpeer⟩ := Registry.mem_ids_of_session? ho
  have hc := Registry.isClosed_eq_false_of_mem hr
    (hpeer ▸ List.mem_map_of_mem hmem : c ∈ room.registry.ids)
  by_cases hal : room.registry.flowerAllowed c now = true
  · simp [messageLog, hc, handled, hcmd, ho, hpeer, hal]
  · simp [messageLog, hc, handled, hcmd, ho, hpeer, hal]

/-- A step from a room is a FLOWER from `c` that the room accepts: a FLOWER from `c` among whose
pushes is a flower, as the message itself or as its line. -/
def acceptsFlower (room : Room) (st : Step) (c : PeerId) : Prop :=
  st.peer = c ∧ st.message?.map (·.command) = some .flower ∧
    ∃ p ∈ (room.stepLog st).sends, p.2.command? = some .flower

instance (room : Room) (st : Step) (c : PeerId) : Decidable (room.acceptsFlower st c) := by
  unfold acceptsFlower
  infer_instance

/-- **A flower is broadcast exactly when the room takes it**: a FLOWER from a connection with a
session whose cooldown has run out. Too soon, the only pushes are the reply and those of the
departures after it, none of them a flower. -/
theorem acceptsFlower_iff {room : Room} (hr : room.registry.Consistent) (st : Step) (c : PeerId) :
    room.acceptsFlower st c ↔ st.peer = c ∧ st.takesFlower room.registry = true := by
  constructor
  · rintro ⟨rfl, hflower, p, hp, hpush⟩
    obtain ⟨msg, hst, hcmd⟩ := Option.map_eq_some_iff.1 hflower
    refine ⟨rfl, ?_⟩
    rw [stepLog_of_message? hst] at hp
    cases ho : room.registry.session? st.peer with
    | none =>
      -- without a session the FLOWER does nothing
      simp [messageLog, handled, hcmd, ho, StepLog.idle] at hp
    | some origin =>
      have hid : st.peer ∈ room.registry.ids := by
        rw [← Registry.session?_isSome_iff, ho]
        rfl
      rw [messageLog_flower hr hcmd ho] at hp
      by_cases hal : room.registry.flowerAllowed st.peer st.now = true
      · simp [Step.takesFlower, hst, hcmd, hid, hal]
      · rw [if_neg hal] at hp
        simp only [StepLog.cascading, List.cons_append, List.nil_append, List.mem_cons] at hp
        rcases hp with rfl | hp
        · simp [command?_cooldownReply] at hpush
        · exact absurd hpush (command?_popSends hp)
  · rintro ⟨rfl, ht⟩
    simp only [Step.takesFlower, Bool.and_eq_true, Option.any_eq_true, beq_iff_eq,
      List.contains_iff_mem] at ht
    obtain ⟨⟨⟨msg, hst, hcmd⟩, hid⟩, hal⟩ := ht
    obtain ⟨origin, ho⟩ := Option.isSome_iff_exists.1 ((Registry.session?_isSome_iff _ _).2 hid)
    refine ⟨rfl, by simp [hst, hcmd], ?_⟩
    -- the sender's own copy is among the pushes
    obtain ⟨s, hs, -⟩ := List.mem_map.1
      ((Registry.ids_recordFlower room.registry st.peer st.now).symm ▸ hid :
        st.peer ∈ (room.registry.recordFlower st.peer st.now).ids)
    refine ⟨(s.peer, copyFor origin (flowerMessage origin st.now) s), ?_, ?_⟩
    · rw [stepLog_of_message? hst, messageLog_flower hr hcmd ho, if_pos hal]
      simp only [StepLog.cascading, List.mem_append]
      exact .inl (List.mem_map_of_mem hs)
    · rw [copyFor, command?_itemFor]
      rfl

/-- A FLOWER too soon pushes the reply to its sender alone, and evicts the sender when that push
fails; the reply counts the whole seconds left. -/
theorem step_flower_refused {room : Room} (hr : room.registry.Consistent) {st : Step}
    {msg : Message} (hst : st.message? = some msg) (hcmd : msg.command = .flower)
    (hid : st.peer ∈ room.registry.ids) (hno : room.registry.flowerAllowed st.peer st.now = false) :
    ∃ last, room.registry.lastFlower? st.peer = some last ∧
      st.now.toNat < last.toNat + flowerCooldown ∧
      room.step st =
        (room.pushAll [(st.peer, .text (Line.encode (cooldownReply
          (online room.registry.onlineCount) (secondsLeft last st.now) st.now)))]).evict
          (if room.accepts st.peer then [] else [st.peer]) st.now := by
  obtain ⟨origin, ho⟩ := Option.isSome_iff_exists.1 ((Registry.session?_isSome_iff _ _).2 hid)
  have hpeer := (Registry.mem_ids_of_session? ho).2
  -- a refused flower had one before it
  obtain ⟨last, hlast, hsoon⟩ : ∃ last, room.registry.lastFlower? st.peer = some last ∧
      st.now.toNat < last.toNat + flowerCooldown := by
    have h := (Registry.flowerAllowed_iff room.registry st.peer st.now).not.1 (by simp [hno])
    cases hl : room.registry.lastFlower? st.peer with
    | none => simp [hl] at h
    | some last => exact ⟨last, rfl, by simpa [hl] using h⟩
  have horigin : origin.lastFlower = some last := by simpa [Registry.lastFlower?, ho] using hlast
  refine ⟨last, hlast, hsoon, ?_⟩
  rw [step_of_message? hst, handleAt_eq,
    if_neg (by simp [Registry.isClosed_eq_false_of_mem hr hid])]
  simp only [handler, hcmd, flower, ho, hpeer, hno, horigin, Option.getD_some, Bool.not_false,
    if_true, push_fst, pushAll_cons, pushAll_nil]
  cases room.accepts st.peer <;> rfl

/-! ## The last flower through a step -/

section Sessions

variable {room : Room} (hr : room.registry.Consistent)
include hr

/-- The sessions a message's departures begin from: the room's, with the flower recorded when the
message is an accepted FLOWER, followed by the sessions it logs in, which have sent no flower. -/
theorem messageLog_sessions (c : PeerId) (msg : Message) (now : UInt64) :
    ∃ new : List Session, (∀ s ∈ new, s.peer ∉ room.registry.ids ∧ s.lastFlower = none) ∧
      (room.messageLog c msg now).sessions =
        (if msg.command = .flower ∧ c ∈ room.registry.ids ∧ room.registry.flowerAllowed c now
          then (room.registry.recordFlower c now).active else room.registry.active) ++ new := by
  by_cases hc : room.registry.isClosed c = true
  · -- a closed connection has no session, and its message does nothing
    have hid : c ∉ room.registry.ids := fun h => by
      simp [Registry.isClosed_eq_false_of_mem hr h] at hc
    exact ⟨[], by simp, by simp [messageLog, hc, StepLog.idle, hid]⟩
  · simp only [Bool.not_eq_true] at hc
    have hopen : ¬ room.registry.isClosed c = true := by simp [hc]
    cases hcmd : msg.command with
    | flower =>
      cases ho : room.registry.session? c with
      | none =>
        have hid : c ∉ room.registry.ids := by
          rw [← Registry.session?_isSome_iff, ho]
          simp
        exact ⟨[], by simp, by simp [messageLog, hopen, handled, hcmd, ho, StepLog.idle, hid]⟩
      | some origin =>
        have hid : c ∈ room.registry.ids := by
          rw [← Registry.session?_isSome_iff, ho]
          rfl
        rw [messageLog_flower hr hcmd ho]
        refine ⟨[], by simp, ?_⟩
        split <;> simp_all [StepLog.cascading]
    | login =>
      rw [messageLog, if_neg hopen]
      by_cases hcond :
          Text.isBlank msg.sender.toList = true ∨ (room.registry.nickname? c).isSome = true
      · exact ⟨[], by simp, by simp [handled, hcmd, hcond, StepLog.idle]⟩
      · -- the LOGIN of a connection with neither a session nor a closed mark adds its session
        have hid : c ∉ room.registry.ids := fun hm =>
          hcond (.inr ((Registry.nickname?_isSome_iff _ _).2 hm))
        refine ⟨[Registry.loginSession c ((room.peer? c).map (·.addr) |>.getD defaultAddr)
          ((room.peer? c).map (·.terminal) |>.getD .console) msg],
          by simp [Registry.loginSession, hid], ?_⟩
        simp [handled, hcmd, hcond, Registry.onLogin_of_not_mem hc hid, StepLog.cascading]
    | chat =>
      rw [messageLog, if_neg hopen]
      simp only [handled, hcmd]
      cases room.registry.session? c <;>
        exact ⟨[], by simp, by simp [StepLog.idle, StepLog.cascading]⟩
    | logout =>
      rw [messageLog, if_neg hopen]
      simp only [handled, hcmd]
      cases room.registry.departure? c <;>
        exact ⟨[], by simp, by simp [StepLog.idle, StepLog.cascading]⟩
    | system => exact ⟨[], by simp, by simp [messageLog, hopen, handled, hcmd, StepLog.idle]⟩

theorem stepLog_sessions (st : Step) :
    ∃ new : List Session, (∀ s ∈ new, s.peer ∉ room.registry.ids ∧ s.lastFlower = none) ∧
      (room.stepLog st).sessions =
        (if st.takesFlower room.registry then (room.registry.recordFlower st.peer st.now).active
          else room.registry.active) ++ new := by
  cases hst : st.message? with
  | some msg =>
    obtain ⟨new, hnew, hs⟩ := messageLog_sessions hr st.peer msg st.now
    refine ⟨new, hnew, ?_⟩
    rw [stepLog_of_message? hst, hs]
    simp [Step.takesFlower, hst, and_assoc]
  | none =>
    -- a line that is not of the protocol does nothing; a connection going away departs from the
    -- room's sessions
    have hflag : st.takesFlower room.registry = false := by simp [Step.takesFlower, hst]
    refine ⟨[], by simp, ?_⟩
    cases st with
    | message => cases hst
    | text id line now =>
      simp only [Step.message?] at hst
      simp [stepLog, hst, hflag, StepLog.idle]
    | disconnect id now => simp [stepLog, hflag, StepLog.cascading]

/-- **How a step moves the time of the last flower.** A connection with a session after a step
has the time of the step as its last flower when the step is its accepted FLOWER, keeps its last
flower when it had a session before and the step is anything else, and has sent no flower when it
logged in during the step. -/
theorem stepLog_lastFlower? (st : Step) {x : PeerId}
    (hafter : x ∈ (room.stepLog st).registry.ids) :
    (room.stepLog st).registry.lastFlower? x =
      if x ∈ room.registry.ids then
        (if st.peer = x ∧ st.takesFlower room.registry then some st.now
          else room.registry.lastFlower? x)
      else none := by
  have h := stepLog_logged hr st
  have hnd : x ∉ (room.stepLog st).departures.map (·.peer) := by
    rw [Registry.ids, h.active, mem_ids_filter] at hafter
    exact hafter.2
  obtain ⟨new, hnew, hs⟩ := stepLog_sessions hr st
  -- the registry the sessions begin with: the room's, with the flower recorded when accepted
  let base := if st.takesFlower room.registry then room.registry.recordFlower st.peer st.now
    else room.registry
  have hbase : (if st.takesFlower room.registry then
      (room.registry.recordFlower st.peer st.now).active else room.registry.active) =
      base.active :=
    (apply_ite Registry.active _ _ _).symm
  have hids : base.ids = room.registry.ids := by
    simp only [base]
    split
    · exact Registry.ids_recordFlower _ _ _
    · rfl
  rw [Registry.lastFlower?, Registry.session?, h.active, find?_peer_filter hnd, hs, hbase,
    List.find?_append]
  by_cases hx : x ∈ room.registry.ids
  · -- found among the room's sessions
    obtain ⟨s, hs'⟩ :=
      Option.isSome_iff_exists.1 ((Registry.session?_isSome_iff base x).2 (hids ▸ hx))
    have hfind : base.active.find? (·.peer == x) = some s := hs'
    have hlast : s.lastFlower = base.lastFlower? x := by simp [Registry.lastFlower?, hs']
    rw [hfind, Option.some_or, Option.bind_some, hlast, if_pos hx]
    simp only [base]
    split
    · next ht => simp [Registry.lastFlower?_recordFlower, ht, hx, eq_comm]
    · next ht => simp [ht]
  · -- a session the step logged in
    have hfind : base.active.find? (·.peer == x) = none := by
      have := (Registry.session?_isSome_iff base x).not.2 (hids ▸ hx)
      simpa [Registry.session?] using this
    rw [hfind, Option.none_or, if_neg hx]
    cases hn : new.find? (·.peer == x) with
    | none => rfl
    | some s => simp [(hnew s (List.mem_of_find?_eq_some hn)).2]

end Sessions

/-! ## Runs of the router -/

/-- The room after a run of actions. -/
def performAll (room : Room) (actions : List Action) : Room :=
  actions.foldl (fun room a => (room.perform a).2) room

/-- An action of a run of the router: anything but a call made on the registry directly. -/
def Action.routed : Action → Prop
  | .registryLogin .. | .registryLogout .. | .registryRelease .. | .registryRecordFlower .. =>
    False
  | _ => True

/-- An action of the router is a step, or leaves the registry as it is. -/
theorem perform_routed (room : Room) {a : Action} (ha : a.routed) :
    (∃ st, (room.perform a).2 = room.step st) ∨ (room.perform a).2.registry = room.registry := by
  cases a with
  | message c msg now => exact .inl ⟨.message c msg now, rfl⟩
  | text c line now => exact .inl ⟨.text c line now, rfl⟩
  | disconnect c now => exact .inl ⟨.disconnect c now, rfl⟩
  | connect | drop | isClosed | registryFlowerAllowed => exact .inr rfl
  | registryNickname c | registryLastFlower c =>
    right
    simp only [perform]
    split <;> rfl
  | registryLogin | registryLogout | registryRelease | registryRecordFlower => exact ha.elim

/-- Along a run of the router in which `c` keeps its session, its last flower never goes below a
bound it starts above: each accepted flower comes a full cooldown after the last. -/
theorem lastFlower_run {room : Room} (hroom : Reachable room) {c : PeerId} {t : Nat}
    (actions : List Action) (hrouted : ∀ a ∈ actions, a.routed)
    (hstay : ∀ pre post, actions = pre ++ post → c ∈ (room.performAll pre).registry.ids)
    (h0 : ∃ last, room.registry.lastFlower? c = some last ∧ t ≤ last.toNat) :
    ∃ last, (room.performAll actions).registry.lastFlower? c = some last ∧ t ≤ last.toNat := by
  induction actions generalizing room with
  | nil => exact h0
  | cons a actions ih =>
    apply ih (hroom.perform a) (fun b hb => hrouted b (List.mem_cons_of_mem _ hb))
      (fun pre post he => hstay (a :: pre) post (by rw [he]; rfl))
    have hbefore : c ∈ room.registry.ids := hstay [] (a :: actions) rfl
    have hafter : c ∈ (room.perform a).2.registry.ids := hstay [a] actions rfl
    obtain ⟨last, hlast, ht⟩ := h0
    rcases perform_routed room (hrouted a List.mem_cons_self) with ⟨st, hst⟩ | hreg
    · rw [hst, step_registry] at hafter ⊢
      rw [stepLog_lastFlower? hroom.consistent st hafter, if_pos hbefore]
      split
      · -- an accepted flower comes a full cooldown after the last
        next hacc =>
        have hcool := Registry.cooldown_of_flowerAllowed
          (hacc.1 ▸ Step.flowerAllowed_of_takesFlower hacc.2) hlast
        exact ⟨st.now, rfl, by unfold flowerCooldown at hcool; omega⟩
      · exact ⟨last, hlast, ht⟩
    · rw [hreg]
      exact ⟨last, hlast, ht⟩

/-- **Accepted flowers are a cooldown apart.** If a step from a reachable room is an accepted
FLOWER from `c`, and after it a run of the router keeps `c`'s session throughout and ends in
another accepted FLOWER from `c`, the second comes a full cooldown after the first. -/
theorem flowers_spaced {room : Room} (hroom : Reachable room) {c : PeerId} {s₁ s₂ : Step}
    {actions : List Action} (h₁ : room.acceptsFlower s₁ c) (hrouted : ∀ a ∈ actions, a.routed)
    (hstay : ∀ pre post, actions = pre ++ post → c ∈ ((room.step s₁).performAll pre).registry.ids)
    (h₂ : ((room.step s₁).performAll actions).acceptsFlower s₂ c) :
    s₁.now.toNat + flowerCooldown ≤ s₂.now.toNat := by
  obtain ⟨rfl, ht₁⟩ := (acceptsFlower_iff hroom.consistent s₁ c).1 h₁
  have hid : s₁.peer ∈ room.registry.ids := by
    simp only [Step.takesFlower, Bool.and_eq_true, List.contains_iff_mem] at ht₁
    exact ht₁.1.2
  -- right after the first flower, its time is the last flower
  have h0 : ∃ last, (room.step s₁).registry.lastFlower? s₁.peer = some last ∧
      s₁.now.toNat ≤ last.toNat := by
    have hafter : s₁.peer ∈ (room.stepLog s₁).registry.ids :=
      step_registry room s₁ ▸ hstay [] actions rfl
    refine ⟨s₁.now, ?_, le_refl _⟩
    rw [step_registry, stepLog_lastFlower? hroom.consistent s₁ hafter, if_pos hid,
      if_pos ⟨rfl, ht₁⟩]
  obtain ⟨last, hlast, hle⟩ := lastFlower_run (hroom.step s₁) actions hrouted hstay h0
  have hend : Reachable ((room.step s₁).performAll actions) :=
    (hroom.step s₁).foldl_perform actions
  obtain ⟨hpeer, ht₂⟩ := (acceptsFlower_iff hend.consistent s₂ _).1 h₂
  have hcool := Registry.cooldown_of_flowerAllowed
    (hpeer ▸ Step.flowerAllowed_of_takesFlower ht₂) hlast
  omega

/-! ## Every connection of every reachable room -/

/-- The cooldown as connection `c` of `room` sees it:
* a FLOWER from `c` while it has a session is accepted exactly when `c` has sent no accepted
  flower in this session, or its last one was a full cooldown before;
* after any step, `c`, if it has a session, has the step's time as its last flower when the step
  was its accepted FLOWER, keeps its last flower when it had a session before and the step is
  anything else, and has none when it logged in during the step;
* a FLOWER from `c` that is refused pushes one line to `c` and nothing else: the hub's reply
  that `c` may try again in `k` seconds, `k` the whole seconds of the cooldown left, between 1
  and 60; and `c` is evicted when that push fails;
* after an accepted FLOWER from `c`, a run of the router in which `c` keeps its session ends in
  an accepted FLOWER from `c` only a full cooldown later. -/
structure FlowerCooldown (room : Room) (c : PeerId) : Prop where
  decides : ∀ st : Step, st.peer = c → st.message?.map (·.command) = some .flower →
    c ∈ room.registry.ids →
    (room.acceptsFlower st c ↔ room.registry.lastFlower? c = none ∨
      ∃ last, room.registry.lastFlower? c = some last ∧ last.toNat + flowerCooldown ≤ st.now.toNat)
  records : ∀ st : Step, c ∈ (room.step st).registry.ids →
    (room.step st).registry.lastFlower? c =
      if c ∈ room.registry.ids then
        (if room.acceptsFlower st c then some st.now else room.registry.lastFlower? c)
      else none
  refuses : ∀ st : Step, st.peer = c → st.message?.map (·.command) = some .flower →
    c ∈ room.registry.ids → ¬ room.acceptsFlower st c →
    ∃ last k, room.registry.lastFlower? c = some last ∧
      k = 60 - (st.now.toNat - last.toNat) / 1000 ∧ 1 ≤ k ∧ k ≤ 60 ∧
      room.step st =
        (room.pushAll [(c, .text (Line.encode
          (cooldownReply (online room.registry.onlineCount) k st.now)))]).evict
          (if room.accepts c then [] else [c]) st.now
  spaced : ∀ (s₁ s₂ : Step) (actions : List Action), room.acceptsFlower s₁ c →
    (∀ a ∈ actions, a.routed) →
    (∀ pre post, actions = pre ++ post → c ∈ ((room.step s₁).performAll pre).registry.ids) →
    ((room.step s₁).performAll actions).acceptsFlower s₂ c →
    s₁.now.toNat + flowerCooldown ≤ s₂.now.toNat

/-- **The flower cooldown.** Every connection of every reachable room sees the
`FlowerCooldown`. -/
theorem flower_cooldown {room : Room} (hroom : Reachable room) (c : PeerId) :
    FlowerCooldown room c := by
  have hr := hroom.consistent
  refine ⟨fun st hpeer hflower hid => ?_, fun st hafter => ?_,
    fun st hpeer hflower hid hno => ?_, fun s₁ s₂ actions h₁ hrouted hstay h₂ =>
      flowers_spaced hroom h₁ hrouted hstay h₂⟩
  · -- accepted exactly when the room takes it, which is the cooldown rule
    obtain ⟨msg, hst, hcmd⟩ := Option.map_eq_some_iff.1 hflower
    rw [acceptsFlower_iff hr, ← Registry.flowerAllowed_iff, ← hpeer]
    simp [Step.takesFlower, hst, hcmd, hpeer ▸ hid]
  · rw [step_registry] at hafter ⊢
    rw [stepLog_lastFlower? hr st hafter]
    simp only [acceptsFlower_iff hr st c]
  · obtain ⟨msg, hst, hcmd⟩ := Option.map_eq_some_iff.1 hflower
    subst hpeer
    have hno' : room.registry.flowerAllowed st.peer st.now = false := by
      have h := (acceptsFlower_iff hr st st.peer).not.1 hno
      simpa [Step.takesFlower, hst, hcmd, hid] using h
    obtain ⟨last, hlast, hsoon, heq⟩ := step_flower_refused hr hst hcmd hid hno'
    have hk : secondsLeft last st.now = 60 - (st.now.toNat - last.toNat) / 1000 := rfl
    unfold flowerCooldown at hsoon
    -- less than a cooldown has passed, so at least one whole second is left
    refine ⟨last, secondsLeft last st.now, hlast, hk, ?_, ?_, heq⟩ <;> omega

/-- Ann on a console and bob on a web socket, both logged in, and ann's flower at time 3
accepted. -/
def annSentFlower : Room :=
  performAll {} [.connect "10.0.0.1" .console, .connect "10.0.0.2" .webSocket,
    .message 0 (.login "ann" .console 1) 1, .message 1 (.login "bob" .webSocket 2) 2,
    .message 0 (.flower "ann" .console 3) 3]

/-- Ann's next flowers are under the cooldown. -/
theorem flower_cooldown_after_flower :
    Reachable annSentFlower ∧ FlowerCooldown annSentFlower 0 :=
  ⟨Reachable.empty.foldl_perform _, flower_cooldown (Reachable.empty.foldl_perform _) 0⟩

end ChatHub.Room
