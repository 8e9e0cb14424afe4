import ChatHub.Proofs.FlowerCooldown
/-!
# ChatHub — what a line tells its reader

The room sends a message natively to a console session and as its line to any other. This module
proves that both kinds of reader learn the same message, except where the router means the
stepping connection to see its own:

* **`handled_pushes`** — in a consistent room the pushes of a handling to every connection but
  the stepping one form one broadcast (`Broadcasts`) among the sessions the room had: the LOGIN's
  "joined" greeting, the CHAT or FLOWER copy under the sender's nickname, the LOGOUT's notice,
  each natively exactly to a console session; the stepping connection gets a close or its own
  copy (`OwnCopy`): "connected to server..." for a LOGIN, a line from "you" for a CHAT or FLOWER;
* **`Broadcasts.agrees`** — within a broadcast every line is the line of every native message,
  and reads back as its normal form unless its sender holds a closing bracket;
* **`stepLog_covers`** — every push of a step is a close, a push of its handling, or one of the
  notices of one of its departures;
* **`text_delivery`** — all of this for every step of every consistent room.

The stepping connection's own copy differs by design (`echo_line_differs`).
-/

namespace ChatHub.Room

/-! ## One message to every reader -/

/-- The pushes of one broadcast of `m` among the sessions `ss`: each is a close, or goes to one of
them, natively when that session is on a console and as the line of `m` otherwise. -/
def Broadcasts (ss : List Session) (m : Message) (sends : List (PeerId × Outbound)) : Prop :=
  ∀ p ∈ sends, p.2 = .close ∨ ∃ s ∈ ss, s.peer = p.1 ∧ p.2 = itemFor m (s.terminal == .console)

section Broadcasts

variable {ss ss' : List Session} {m : Message} {sends : List (PeerId × Outbound)}

theorem Broadcasts.mono (h : Broadcasts ss m sends) (hss : ∀ s ∈ ss, s ∈ ss')
    {sends' : List (PeerId × Outbound)} (hsub : ∀ p ∈ sends', p ∈ sends) :
    Broadcasts ss' m sends' := by
  intro p hp
  obtain hc | ⟨s, hs, hpeer, hitem⟩ := h p (hsub p hp)
  · exact .inl hc
  · exact .inr ⟨s, hss s hs, hpeer, hitem⟩

theorem broadcasts_deliveries {item : Session → Outbound}
    (h : ∀ s ∈ ss, s ∈ ss' ∧ item s = itemFor m (s.terminal == .console)) :
    Broadcasts ss' m (deliveries item ss) := by
  intro p hp
  obtain ⟨s, hs, rfl⟩ := List.mem_map.1 hp
  obtain ⟨hs', hitem⟩ := h s hs
  exact .inr ⟨s, hs', rfl, hitem⟩

/-- The deliveries to every session but one connection's broadcast `m` when each of the others
is among `ss'` and gets `m` natively exactly on a console. -/
theorem broadcasts_others {item : Session → Outbound} {id : PeerId}
    (h : ∀ s ∈ ss, s.peer ≠ id → s ∈ ss' ∧ item s = itemFor m (s.terminal == .console)) :
    Broadcasts ss' m ((deliveries item ss).filter (·.1 ≠ id)) := by
  rw [deliveries, List.filter_map]
  apply broadcasts_deliveries
  intro s hs
  obtain ⟨hs, hne⟩ := List.mem_filter.1 hs
  exact h s hs (by simpa using hne)

/-- What deliveries push to one connection has the property its sessions' items have. -/
theorem deliveries_own {item : Session → Outbound} {id : PeerId} {P : Outbound → Prop}
    (h : ∀ s ∈ ss, s.peer = id → P (item s)) : ∀ o, (id, o) ∈ deliveries item ss → P o := by
  intro o ho
  obtain ⟨s, hs, he⟩ := List.mem_map.1 ho
  simp only [Prod.mk.injEq] at he
  obtain ⟨hpeer, rfl⟩ := he
  exact h s hs hpeer

theorem broadcasts_departure (d : Departure) (now : UInt64) :
    Broadcasts d.rest (d.notice now) (d.sends now) :=
  broadcasts_deliveries fun _ hs => ⟨hs, rfl⟩

theorem itemFor_eq_text {native : Bool} {L : String}
    (h : itemFor m native = .text L) : L = Line.encode m := by
  unfold itemFor at h
  split at h
  · cases h
  · cases h
    rfl

theorem itemFor_eq_message {native : Bool} {M : Message}
    (h : itemFor m native = .message M) : M = m := by
  unfold itemFor at h
  split at h
  · cases h
    rfl
  · cases h

/-- **A broadcast's line is the line of its native message.** -/
theorem Broadcasts.line_eq (h : Broadcasts ss m sends) {x y : PeerId} {L : String} {M : Message}
    (hx : (x, .text L) ∈ sends) (hy : (y, .message M) ∈ sends) : L = Line.encode M := by
  obtain hc | ⟨_, _, _, hl⟩ := h _ hx
  · cases hc
  obtain hc | ⟨_, _, _, hm⟩ := h _ hy
  · cases hc
  rw [itemFor_eq_text hl.symm, itemFor_eq_message hm.symm]

/-- Every line among `sends` is the line of every message among them, and reads back as that
message's normal form when it is a SYSTEM or a LOGOUT or its sender holds no closing bracket. -/
def Agrees (sends : List (PeerId × Outbound)) : Prop :=
  ∀ x y L M, (x, Outbound.text L) ∈ sends → (y, Outbound.message M) ∈ sends →
    L = Line.encode M ∧ (M.command = .system ∨ M.command = .logout ∨ ']' ∉ M.sender.toList →
      Line.decode L = some (Line.lineForm M))

/-- **Text and console readers of a broadcast agree.** -/
theorem Broadcasts.agrees (h : Broadcasts ss m sends) : Agrees sends := by
  intro x y L M hx hy
  have hL : L = Line.encode M := h.line_eq hx hy
  refine ⟨hL, fun hM => ?_⟩
  rw [hL]
  exact Line.decode_encode M hM

end Broadcasts

/-! ## Every push is a message or its line -/

/-- An item is a close, or a message natively or as its line. -/
def Outbound.IsItem (o : Outbound) : Prop :=
  o = .close ∨ ∃ m native, o = itemFor m native

theorem Broadcasts.isItem {ss : List Session} {m : Message} {sends : List (PeerId × Outbound)}
    (h : Broadcasts ss m sends) : ∀ p ∈ sends, p.2.IsItem := by
  intro p hp
  obtain hc | ⟨s, -, -, hn⟩ := h p hp
  · exact .inl hc
  · exact .inr ⟨m, _, hn⟩

theorem Outbound.IsItem.line {o : Outbound} (h : o.IsItem) {L : String} (hL : o = .text L) :
    ∃ m, L = Line.encode m := by
  obtain hc | ⟨m, native, rfl⟩ := h
  · rw [hc] at hL
    cases hL
  · exact ⟨m, itemFor_eq_text hL⟩

/-! ## The stepping connection's own copy -/

/-- What the handling of a command pushes to the stepping connection `id` itself besides a close,
given the message `m` it broadcasts to the others: a LOGIN greets the newcomer with "connected to
server..." in place of the broadcast's content, natively exactly when its new session in
`registry` is on a console; a CHAT or a FLOWER answers it with a line from "you". -/
def OwnCopy (registry : Registry) (id : PeerId) (cmd : Command) (m : Message) (o : Outbound) :
    Prop :=
  (cmd = .login ∧ ∃ s ∈ registry.active, s.peer = id ∧
      o = itemFor { m with content := "connected to server..." } (s.terminal == .console)) ∨
    ((cmd = .chat ∨ cmd = .flower) ∧
      ∃ mine : Message, mine.sender = selfSender ∧ o = .text (Line.encode mine))

theorem OwnCopy.isItem {registry : Registry} {id : PeerId} {cmd : Command} {m : Message}
    {o : Outbound} (h : OwnCopy registry id cmd m o) : o.IsItem := by
  rcases h with ⟨-, s, -, -, rfl⟩ | ⟨-, mine, -, rfl⟩
  · exact .inr ⟨_, _, rfl⟩
  · exact .inr ⟨mine, false, rfl⟩

/-- **A copy from `origin`.** The copies of a message from `origin`'s connection `id` are one
broadcast, under `origin`'s nickname, among the other sessions they reach, and `id`'s own copy of
a CHAT or a FLOWER is its line from "you". -/
theorem copyFor_pushes {ss ss' : List Session} {origin : Session} {make : String → Message}
    {id : PeerId} {registry : Registry} {cmd : Command} (hcmd : cmd = .chat ∨ cmd = .flower)
    (hmake : (make selfSender).sender = selfSender) (hpeer : origin.peer = id)
    (hss : ∀ s ∈ ss, s.peer ≠ id → s ∈ ss') :
    ∃ m, Broadcasts ss' m ((deliveries (copyFor origin make) ss).filter (·.1 ≠ id)) ∧
      ∀ o, (id, o) ∈ deliveries (copyFor origin make) ss → o = .close ∨
        OwnCopy registry id cmd m o := by
  refine ⟨make origin.nickname, broadcasts_others fun s hs hne => ⟨hss s hs hne, ?_⟩,
    deliveries_own fun s _ hs => .inr (.inr ⟨hcmd, make selfSender, hmake, ?_⟩)⟩
  · simp [copyFor, hpeer, beq_eq_false_iff_ne.2 hne]
  · simp [copyFor, hpeer, hs, itemFor]

/-- A change to one connection's session keeps the sessions of every other connection. -/
theorem mem_of_mem_map_session {ss : List Session} {f : Session → Session} {id : PeerId}
    (hf : ∀ x, x.peer ≠ id → f x = x) (hpeer : ∀ x, x.peer = id → (f x).peer = id)
    {s : Session} (hs : s ∈ ss.map f) (hne : s.peer ≠ id) : s ∈ ss := by
  obtain ⟨x, hx, rfl⟩ := List.mem_map.1 hs
  by_cases hxp : x.peer = id
  · exact absurd (hpeer x hxp) hne
  · rw [hf x hxp]
    exact hx

/-- A login keeps the sessions of every other connection. -/
theorem Registry.mem_of_onLogin {r r' : Registry} {id : PeerId} {addr : String} {own : Terminal}
    {msg : Message} {count : Nat} (h : r.onLogin id addr own msg = some (count, r'))
    {s : Session} (hs : s ∈ r'.active) (hne : s.peer ≠ id) : s ∈ r.active := by
  cases hc : r.isClosed id with
  | true =>
    rw [Registry.onLogin_of_isClosed hc] at h
    cases h
  | false =>
    by_cases hid : id ∈ r.ids
    · -- the new session takes the old one's place
      rw [Registry.onLogin_of_mem hc hid] at h
      simp only [Option.some.injEq, Prod.mk.injEq] at h
      obtain ⟨-, rfl⟩ := h
      exact mem_of_mem_map_session (fun x hx => by simp [hx])
        (fun x hx => by simp [hx, Registry.loginSession]) hs hne
    · -- the new session comes last
      rw [Registry.onLogin_of_not_mem hc hid] at h
      simp only [Option.some.injEq, Prod.mk.injEq] at h
      obtain ⟨-, rfl⟩ := h
      rcases List.mem_append.1 hs with hs | hs
      · exact hs
      · rw [List.mem_singleton] at hs
        subst hs
        exact absurd rfl hne

/-- Recording a flower keeps the sessions of every other connection. -/
theorem Registry.mem_of_recordFlower {r : Registry} {id : PeerId} {time : UInt64} {s : Session}
    (hs : s ∈ (r.recordFlower id time).active) (hne : s.peer ≠ id) : s ∈ r.active :=
  mem_of_mem_map_session (fun x hx => by simp [hx]) (fun x hx => by simp [hx]) hs hne

section Handled

variable {room : Room} {id : PeerId} {msg : Message} {now : UInt64} {registry : Registry}
  {sends : List (PeerId × Outbound)} {d? : Option Departure}

/-- **What a handling pushes.** In a consistent room every push of a handling to a connection
other than the stepping one belongs to one broadcast among the sessions the room had, and every
push to the stepping connection is a close or its own copy. -/
theorem handled_pushes (hr : room.registry.Consistent)
    (h : room.handled id msg now = some (registry, sends, d?)) :
    ∃ m, Broadcasts room.registry.active m (sends.filter (·.1 ≠ id)) ∧
      ∀ o, (id, o) ∈ sends → o = .close ∨ OwnCopy registry id msg.command m o := by
  cases hcmd : msg.command with
  | login =>
    -- "<nickname> joined the room..." to the others, "connected to server..." to the newcomer
    simp only [handled, hcmd] at h
    split at h
    · cases h
    · obtain ⟨⟨count, r⟩, hlogin, he⟩ := Option.map_eq_some_iff.1 h
      simp only [Prod.mk.injEq] at he
      obtain ⟨rfl, rfl, rfl⟩ := he
      refine ⟨Message.system (online count) (msg.sender ++ " joined the room...") now,
        broadcasts_others fun s hs hne => ⟨Registry.mem_of_onLogin hlogin hs hne, ?_⟩,
        deliveries_own fun s hs hpeer => .inr (.inl ⟨rfl, s, hs, hpeer, ?_⟩)⟩
      · simp [greeting, hne]
      · simp [greeting, hpeer]
        rfl
  | chat =>
    -- the CHAT under the sender's nickname to the others, and from "you" to the sender
    simp only [handled, hcmd] at h
    obtain ⟨origin, horigin, he⟩ := Option.map_eq_some_iff.1 h
    simp only [Prod.mk.injEq] at he
    obtain ⟨rfl, rfl, rfl⟩ := he
    exact copyFor_pushes (.inl rfl) rfl (Registry.mem_ids_of_session? horigin).2 fun s hs _ => hs
  | flower =>
    simp only [handled, hcmd] at h
    obtain ⟨origin, horigin, he⟩ := Option.map_eq_some_iff.1 h
    have hpeer := (Registry.mem_ids_of_session? horigin).2
    split at he
    · -- too soon: the reply, a line from "you", to the sender alone
      simp only [Prod.mk.injEq] at he
      obtain ⟨rfl, rfl, rfl⟩ := he
      refine ⟨msg, fun p hp => ?_, fun o ho => ?_⟩
      · simp at hp
      · simp only [List.mem_singleton, Prod.mk.injEq] at ho
        exact .inr (.inr ⟨.inr rfl, _, rfl, ho.2⟩)
    · -- the FLOWER under the sender's nickname to the others, and from "you" to the sender
      simp only [Prod.mk.injEq] at he
      obtain ⟨rfl, rfl, rfl⟩ := he
      exact copyFor_pushes (.inr rfl) rfl hpeer fun s hs hne =>
        Registry.mem_of_recordFlower hs (hpeer ▸ hne)
  | logout =>
    -- the notice to the sessions left, which in a consistent room are all but the sender's,
    -- and the sender's close
    simp only [handled, hcmd] at h
    obtain ⟨⟨d, r⟩, hd, he⟩ := Option.map_eq_some_iff.1 h
    simp only [Prod.mk.injEq] at he
    obtain ⟨rfl, rfl, rfl⟩ := he
    have hid : id ∈ room.registry.ids := by
      by_contra hid
      rw [departure?_of_not_mem hid] at hd
      cases hd
    obtain ⟨nickname, -, hdep⟩ := departure?_of_mem hr hid
    rw [hdep] at hd
    simp only [Option.some.injEq, Prod.mk.injEq] at hd
    obtain ⟨rfl, rfl⟩ := hd
    refine ⟨Departure.notice ⟨id, nickname, room.registry.active.filter (·.peer ≠ id)⟩ now,
      (broadcasts_departure _ now).mono (fun s hs => (List.mem_filter.1 hs).1) fun p hp => ?_,
      fun o ho => ?_⟩
    · obtain ⟨hp, hne⟩ := List.mem_filter.1 hp
      rcases List.mem_append.1 hp with hp | hp
      · exact hp
      · rw [List.mem_singleton] at hp
        subst hp
        simp at hne
    · rcases List.mem_append.1 ho with ho | ho
      · exact (deliveries_own (P := fun _ => False)
          (fun s hs hpeer => absurd hpeer (by simpa using (List.mem_filter.1 hs).2)) o ho).elim
      · exact .inl (by simpa using ho)
  | system => simp [handled, hcmd] at h

/-- Every push of a handling in a consistent room is a close, or a message natively or as its
line. -/
theorem handled_items (hr : room.registry.Consistent)
    (h : room.handled id msg now = some (registry, sends, d?)) : ∀ p ∈ sends, p.2.IsItem := by
  obtain ⟨m, hothers, hown⟩ := handled_pushes hr h
  rintro ⟨x, o⟩ hp
  by_cases hx : x = id
  · subst hx
    rcases hown o hp with hc | hc
    · exact .inl hc
    · exact hc.isItem
  · exact hothers.isItem _ (List.mem_filter.2 ⟨hp, by simpa using hx⟩)

end Handled

/-! ## The pushes of a step -/

theorem mem_popSends {now : UInt64} {pops : List Pop} {p : PeerId × Outbound}
    (hp : p ∈ popSends now pops) : p.2 = .close ∨ ∃ d ∈ departures pops, p ∈ d.sends now := by
  simp only [popSends, List.mem_flatMap, List.mem_cons] at hp
  obtain ⟨⟨x, d?⟩, hx, rfl | hp⟩ := hp
  · exact .inl rfl
  · cases d? with
    | none => simp at hp
    | some d =>
      refine .inr ⟨d, ?_, by simpa using hp⟩
      simp only [departures, List.mem_filterMap]
      exact ⟨_, hx, rfl⟩

/-- **Every push of a step belongs to a broadcast.** A push of a step is a close, one of the
pushes of the handling of its message, or one of the notices of one of its departures. -/
theorem stepLog_covers (room : Room) (st : Step) :
    ∀ p ∈ (room.stepLog st).sends, p.2 = .close ∨
      (∃ msg registry sends d?, st.message? = some msg ∧
        room.handled st.peer msg st.now = some (registry, sends, d?) ∧ p ∈ sends) ∨
      ∃ d ∈ (room.stepLog st).departures, p ∈ d.sends st.now := by
  intro p hp
  cases hst : st.message? with
  | some msg =>
    rw [stepLog_of_message? hst] at hp ⊢
    by_cases hc : room.registry.isClosed st.peer = true
    · simp [messageLog, hc, StepLog.idle] at hp
    · cases hh : room.handled st.peer msg st.now with
      | none => simp [messageLog, hc, hh, StepLog.idle] at hp
      | some x =>
        obtain ⟨registry, sends, d?⟩ := x
        have hlog : room.messageLog st.peer msg st.now =
            .cascading room.accepts st.now
              (if d?.isSome then room.registry.active else registry.active) registry sends d? := by
          simp [messageLog, hc, hh]
        rw [hlog] at hp ⊢
        simp only [StepLog.cascading, List.mem_append] at hp
        rcases hp with hp | hp
        · exact .inr (.inl ⟨msg, registry, sends, d?, rfl, hh, hp⟩)
        · -- the cascade after the handling: closes and notices of departures
          rcases mem_popSends hp with hc' | ⟨d, hd, hpd⟩
          · exact .inl hc'
          · exact .inr (.inr ⟨d, List.mem_append_right _ hd, hpd⟩)
  | none =>
    cases st with
    | message => cases hst
    | text id line now =>
      simp only [Step.message?] at hst
      simp [stepLog, hst, StepLog.idle] at hp
    | disconnect id now =>
      -- the notices of the departure of the connection that goes away, its close, the cascade
      simp only [stepLog, StepLog.cascading, List.mem_append] at hp ⊢
      rcases hp with (hp | hp) | hp
      · unfold leaving at hp ⊢
        split at hp
        · simp at hp
        · next d r hd =>
          exact .inr (.inr ⟨d, by simp, hp⟩)
      · simp only [List.mem_singleton] at hp
        exact .inl (by rw [hp])
      · rcases mem_popSends hp with hc | ⟨d, hd, hpd⟩
        · exact .inl hc
        · exact .inr (.inr ⟨d, .inr hd, hpd⟩)

/-! ## Every step of every room -/

/-- What the readers of a step from `room` learn:
* every line the step pushes is the line of a message, and reads back as that message's normal
  form (`Line.lineForm`) when the message is a SYSTEM or a LOGOUT or its sender holds no closing
  bracket;
* every push of the step is a close, a push of the handling of its message, or a notice of one
  of its departures;
* the pushes of the handling come first; those to every connection but the stepping one carry
  one message, natively to a console session of the room and as its line to any other, so that
  their lines and native messages agree; those to the stepping connection are closes or its own
  copy (`OwnCopy`);
* the notices of each departure carry one message in the same way to the sessions left. -/
structure TextDelivery (room : Room) (st : Step) : Prop where
  lines : ∀ x L, (x, Outbound.text L) ∈ (room.stepLog st).sends → ∃ m, L = Line.encode m ∧
    (m.command = .system ∨ m.command = .logout ∨ ']' ∉ m.sender.toList →
      Line.decode L = some (Line.lineForm m))
  covers : ∀ p ∈ (room.stepLog st).sends, p.2 = .close ∨
    (∃ msg registry sends d?, st.message? = some msg ∧
      room.handled st.peer msg st.now = some (registry, sends, d?) ∧ p ∈ sends) ∨
    ∃ d ∈ (room.stepLog st).departures, p ∈ d.sends st.now
  handling : ∀ msg registry sends d?, st.message? = some msg →
    room.registry.isClosed st.peer = false →
    room.handled st.peer msg st.now = some (registry, sends, d?) →
    sends <+: (room.stepLog st).sends ∧
    ∃ m, Broadcasts room.registry.active m (sends.filter (·.1 ≠ st.peer)) ∧
      Agrees (sends.filter (·.1 ≠ st.peer)) ∧
      ∀ o, (st.peer, o) ∈ sends → o = .close ∨ OwnCopy registry st.peer msg.command m o
  notices : ∀ d ∈ (room.stepLog st).departures,
    Broadcasts d.rest (d.notice st.now) (d.sends st.now) ∧ Agrees (d.sends st.now)

/-- **What a line tells its reader.** Every step of a consistent room delivers by
`TextDelivery`: its lines are lines of messages that read back as their normal form, each of its
broadcasts carries one message, natively exactly to console sessions, and the stepping connection
gets its own copy. -/
theorem text_delivery (room : Room) (st : Step) (hr : room.registry.Consistent) :
    TextDelivery room st := by
  have hcovers := stepLog_covers room st
  -- every push is a close, or a message natively or as its line
  have hitem : ∀ p ∈ (room.stepLog st).sends, p.2.IsItem := by
    intro p hp
    rcases hcovers p hp with hc | ⟨msg, registry, sends, d?, -, hh, hps⟩ | ⟨d, -, hpd⟩
    · exact .inl hc
    · exact handled_items hr hh p hps
    · exact (broadcasts_departure d st.now).isItem p hpd
  refine ⟨fun x L hx => ?_, hcovers, fun msg registry sends d? hst hc hh => ⟨?_, ?_⟩,
    fun d _ => ⟨broadcasts_departure d st.now, (broadcasts_departure d st.now).agrees⟩⟩
  · obtain ⟨m, rfl⟩ := (hitem _ hx).line rfl
    exact ⟨m, rfl, Line.decode_encode m⟩
  · -- a handling's pushes come before those of the cascade after it
    rw [stepLog_of_message? hst]
    simp only [messageLog, hc, hh, Bool.false_eq_true, if_false, StepLog.cascading]
    exact List.prefix_append _ _
  · obtain ⟨m, hothers, hown⟩ := handled_pushes hr hh
    exact ⟨m, hothers, hothers.agrees, hown⟩

/-- A handling whose pushes all land evicts nobody: the room after it is the handling's registry
with its pushes applied. -/
theorem handleAt_of_quiet (room : Room) (id : PeerId) (msg : Message) (now : UInt64)
    {registry : Registry} {sends : List (PeerId × Outbound)} {d? : Option Departure}
    (hc : room.registry.isClosed id = false)
    (h : room.handled id msg now = some (registry, sends, d?))
    (hok : failedOf room.accepts sends = []) :
    room.handleAt id msg now = { room.pushAll sends with registry } := by
  rw [handleAt_eq, if_neg (by simp [hc]), handler_eq, h]
  simp only [hok, List.reverse_nil]
  rw [evict]

/-- Ann and bob, both on consoles, logged in. -/
def annBob : Room :=
  performAll {} [.connect defaultAddr .console, .connect defaultAddr .console,
    .message 0 (.login "ann" .console 0) 1, .message 1 (.login "bob" .console 0) 2]

/-- Ann and bob's room is reachable, hence consistent, and ann's CHAT in it delivers by
`TextDelivery`. -/
theorem annBob_chat_delivery :
    annBob.registry.Consistent ∧ TextDelivery annBob (.message 0 (.chat "ann" "hi" 0) 5) :=
  have hr : annBob.registry.Consistent := (Reachable.foldl_perform .empty _).consistent
  ⟨hr, text_delivery annBob _ hr⟩

/-- Ann's CHAT reaches bob natively from "ann" and ann as a line from "you", which reads back
with "you" as its sender: a line and a native copy of one broadcast differ for the sender. -/
theorem echo_line_differs :
    (0, Outbound.text (Line.encode (Message.chat selfSender "hi" 5))) ∈
        (annBob.stepLog (.message 0 (.chat "ann" "hi" 0) 5)).sends ∧
      (1, Outbound.message (Message.chat "ann" "hi" 5)) ∈
        (annBob.stepLog (.message 0 (.chat "ann" "hi" 0) 5)).sends ∧
      Line.decode (Line.encode (Message.chat selfSender "hi" 5)) ≠
        some (Line.lineForm (Message.chat "ann" "hi" 5)) := by
  let ann : Session :=
    { peer := 0, nickname := "ann", remoteAddr := defaultAddr, terminal := .console }
  let bob : Session :=
    { peer := 1, nickname := "bob", remoteAddr := defaultAddr, terminal := .console }
  -- both logins push their greetings to connections that take them, so nobody is evicted
  let r₀ : Room := performAll {} [.connect defaultAddr .console, .connect defaultAddr .console]
  have h₁ := handleAt_of_quiet r₀ 0 (.login "ann" .console 0) 1 rfl rfl rfl
  have h₂ := handleAt_of_quiet (r₀.handleAt 0 (.login "ann" .console 0) 1) 1
    (.login "bob" .console 0) 2 (by rw [h₁]; rfl) (by rw [h₁]; rfl) (by rw [h₁]; rfl)
  have hreg : annBob.registry = ⟨[ann, bob], []⟩ := by
    show ((r₀.handleAt 0 (.login "ann" .console 0) 1).handleAt 1
      (.login "bob" .console 0) 2).registry = _
    rw [h₂]
    rfl
  have hsends : deliveries (copyFor ann fun sender => Message.chat sender "hi" 5) [ann, bob] <+:
      (annBob.stepLog (.message 0 (.chat "ann" "hi" 0) 5)).sends := by
    simp only [stepLog, messageLog, handled, hreg]
    exact List.prefix_append _ _
  refine ⟨hsends.subset ?_, hsends.subset ?_, ?_⟩
  · simp [deliveries, copyFor, itemFor, ann]
  · simp [deliveries, copyFor, itemFor, ann, bob]
  · -- the echo reads back with the sender "you"
    rw [Line.decode_encode _ (by decide)]
    intro h
    have := congrArg Message.sender (Option.some.inj h)
    revert this
    decide

end ChatHub.Room
