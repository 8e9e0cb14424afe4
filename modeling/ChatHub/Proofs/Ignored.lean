import ChatHub.Proofs.FlowerCooldown
import ChatHub.Proofs.StreamRoundTrip
/-!
# ChatHub — the messages a room ignores

A connection's status decides which of its messages the room listens to: none once it is
closed, only a LOGIN while it has no session, anything but a LOGIN once it has one, and never a
SYSTEM notice, which only the hub writes. Each handler checks its part of this at its own place:
the closed mark before any handling, the session inside the CHAT, FLOWER and LOGOUT handlers,
the nickname and the session inside the LOGIN handler. This module proves that the checks
together leave nothing half done:

* **`handled_eq_none`** — the handling of a message that the room ignores makes no push and
  leaves the registry alone;
* **`step_ignored`** — a step that the room ignores leaves the room exactly as it was: the
  sessions with all their fields, the closed marks, and every connection's queue;
* **`step_ne_of_not_ignored`** — in a consistent room these are the only messages and lines that
  leave it as it was: any other pushes to its own connection, whose queue grows when it takes
  items, or ends that connection's session, which leaves it closed.

No step of a room needs to have been reachable for the first: the checks read nothing but the
registry.
-/

namespace ChatHub.Room

/-- The messages from a connection that a registry makes the room ignore: anything from a
closed connection; a CHAT, FLOWER or LOGOUT from a connection without a session; a SYSTEM from
anyone; a LOGIN whose nickname trims to nothing, or from a connection that has a session. -/
def Registry.Ignores (r : Registry) (id : PeerId) (msg : Message) : Prop :=
  r.isClosed id = true ∨
  (msg.command ∈ [.chat, .flower, .logout] ∧ id ∉ r.ids) ∨
  msg.command = .system ∨
  (msg.command = .login ∧ (Text.trim msg.sender.toList = [] ∨ id ∈ r.ids))

/-- A step that the room ignores: a message or a line whose message, if it has one, the registry
makes the room ignore. A line that is not of the protocol has no message and is ignored too. -/
def Step.Ignored (st : Step) (r : Registry) : Prop :=
  st.releases = false ∧ ∀ msg ∈ st.message?, r.Ignores st.peer msg

/-! ## The handling of an ignored message -/

section Handling

variable {room : Room} {id : PeerId} {msg : Message} {now : UInt64}

theorem session?_eq_none {r : Registry} {x : PeerId} (h : x ∉ r.ids) : r.session? x = none := by
  simpa [← Registry.session?_isSome_iff] using h

theorem nickname?_isSome_eq_false {r : Registry} {x : PeerId} (h : x ∉ r.ids) :
    (r.nickname? x).isSome = false :=
  Bool.eq_false_iff.2 fun hn => h ((Registry.nickname?_isSome_iff _ _).1 hn)

theorem isBlank_eq_false_of_trim {cs : List Char} (h : Text.trim cs ≠ []) :
    Text.isBlank cs = false :=
  Bool.eq_false_iff.2 fun hb => h ((Stream.trim_eq_nil_iff cs).2 hb)

/-- A message that no handler takes up from a connection is its handling's `none`. The case
split follows the place of each check: the CHAT and FLOWER handlers look the session up, the
LOGOUT handler's logout finds none, and the LOGIN handler stops at the nickname or the session. -/
theorem handled_eq_none (h : room.registry.Ignores id msg)
    (hc : room.registry.isClosed id = false) : room.handled id msg now = none := by
  rcases h with hclosed | ⟨hcmd, hid⟩ | hcmd | ⟨hcmd, hblank | hid⟩
  · rw [hc] at hclosed
    cases hclosed
  · -- a connection without a session: no copy, no reply, no departure
    simp only [List.mem_cons, List.not_mem_nil, or_false] at hcmd
    rcases hcmd with hcmd | hcmd | hcmd
    · simp [handled, hcmd, session?_eq_none hid]
    · simp [handled, hcmd, session?_eq_none hid]
    · simp [handled, hcmd, departure?_of_not_mem hid]
  · simp [handled, hcmd]
  · have hb : Text.isBlank msg.sender.toList = true := (Stream.trim_eq_nil_iff _).1 hblank
    simp [handled, hcmd, hb]
  · have hn : (room.registry.nickname? id).isSome = true :=
      (Registry.nickname?_isSome_iff _ _).2 hid
    simp [handled, hcmd, hn]

theorem handleAt_of_handled_none (h : room.handled id msg now = none) :
    room.handleAt id msg now = room := by
  rw [handleAt_eq, handler_eq, h]
  -- no push failed, so there is nobody to evict
  split
  · rfl
  · rw [List.reverse_nil, evict]

theorem handleAt_ignored (h : room.registry.Ignores id msg) : room.handleAt id msg now = room := by
  cases hc : room.registry.isClosed id with
  | true => simp [handleAt, hc]
  | false => exact handleAt_of_handled_none (handled_eq_none h hc)

end Handling

/-- **Ignored steps change nothing.** A step that the room ignores leaves the room exactly as it
was: every session with all its fields, the closed marks, and every connection, queue
included. -/
theorem step_ignored {room : Room} {st : Step} (h : st.Ignored room.registry) :
    room.step st = room := by
  obtain ⟨hrel, hmsg⟩ := h
  cases st with
  | message id msg now => exact handleAt_ignored (hmsg msg rfl)
  | text id line now =>
    simp only [step, handleText]
    cases hline : Line.decode line with
    | none => rfl
    | some msg => exact handleAt_ignored (hmsg msg hline)
  | disconnect => cases hrel

/-- Ann on a console has a session; the web connection next to her has none. -/
def annAndStranger : Room :=
  performAll {} [.connect "10.0.0.1" .console, .connect "10.0.0.2" .webSocket,
    .registryLogin 0 (.login "ann" .console 1)]

/-- The web connection without a session says hello in a line: the room ignores it. -/
theorem step_ignored_stranger_chat :
    Step.Ignored (.text 1 "[CHAT][2][bob] - hello" 2) annAndStranger.registry ∧
      annAndStranger.step (.text 1 "[CHAT][2][bob] - hello" 2) = annAndStranger := by
  have hline : Line.decode "[CHAT][2][bob] - hello" = some (Message.chat "bob" "hello" 2) := by
    decide +kernel
  have h : Step.Ignored (.text 1 "[CHAT][2][bob] - hello" 2) annAndStranger.registry := by
    refine ⟨rfl, fun msg hmsg => ?_⟩
    simp only [Step.message?, hline, Option.mem_def, Option.some.injEq] at hmsg
    subst hmsg
    exact .inr (.inl ⟨by decide, by decide⟩)
  exact ⟨h, step_ignored h⟩

/-! ## What a push leaves in the queues -/

theorem peer?_push (room : Room) (id : PeerId) (item : Outbound) (x : PeerId) :
    (room.push id item).2.peer? x =
      (room.peer? x).map fun p => if x = id then (p.push item).2 else p := by
  unfold push peer?
  split
  · next p hp =>
    simp only [Array.getElem?_setIfInBounds]
    by_cases hx : x = id
    · subst hx
      obtain ⟨hlt, hpe⟩ := Array.getElem?_eq_some_iff.1 hp
      simp [hlt, hpe]
    · simp [hx, Ne.symm hx]
  · next hp =>
    by_cases hx : x = id
    · subst hx
      simp [hp]
    · simp [hx]

/-- **A push lands in its own queue.** After a list of pushes, a connection that takes items has
every item pushed to it appended to its queue, in order; any other connection keeps its queue. -/
theorem queue_pushAll (room : Room) (sends : List (PeerId × Outbound)) (x : PeerId) :
    ((room.pushAll sends).peer? x).map (·.queue) = (room.peer? x).map fun p =>
      if p.accepting then p.queue ++ (sends.filter (·.1 = x)).map (·.2) else p.queue := by
  induction sends generalizing room with
  | nil => simp
  | cons s sends ih =>
    rw [pushAll_cons, ih, peer?_push]
    cases room.peer? x with
    | none => rfl
    | some p =>
      by_cases hx : x = s.1
      · subst hx
        cases hacc : p.accepting <;> simp [Peer.push, hacc]
      · simp [hx, Ne.symm hx]

theorem mem_failedOf {acc : PeerId → Bool} {sends : List (PeerId × Outbound)} {x : PeerId}
    {item : Outbound} (hacc : acc x = false) (hitem : item ≠ .close) (h : (x, item) ∈ sends) :
    x ∈ failedOf acc sends := by
  simp only [failedOf, refused, List.mem_map, List.mem_filter]
  exact ⟨(x, item), ⟨⟨h, by simpa using hitem⟩, by simp [hacc]⟩, rfl⟩

/-! ## A message the room takes up changes it -/

theorem exists_mem_deliveries {ss : List Session} {x : PeerId} {item : Session → Outbound}
    (hx : x ∈ ss.map (·.peer)) (hitem : ∀ s, item s ≠ .close) :
    ∃ o, o ≠ .close ∧ (x, o) ∈ deliveries item ss := by
  obtain ⟨s, hs, rfl⟩ := List.mem_map.1 hx
  exact ⟨item s, hitem s, List.mem_map.2 ⟨s, hs, rfl⟩⟩

section TakenUp

variable {room : Room} {id : PeerId} {msg : Message}

/-- The handling of a message that the room does not ignore does something to the stepping
connection: a LOGOUT ends its session, and anything else pushes it a message or a line, the
greeting of its LOGIN, its own copy of its CHAT or FLOWER, or the reply to a FLOWER too soon. -/
theorem handled_of_not_ignores (hr : room.registry.Consistent) (now : UInt64)
    (h : ¬ room.registry.Ignores id msg) :
    room.registry.isClosed id = false ∧ ∃ registry sends d?,
      room.handled id msg now = some (registry, sends, d?) ∧
      (room.registry.leftBy id msg = [id] ∨ ∃ item, item ≠ .close ∧ (id, item) ∈ sends) := by
  simp only [Registry.Ignores, not_or, not_and, Bool.not_eq_true] at h
  obtain ⟨hc, hstranger, hsys, hlogin⟩ := h
  refine ⟨hc, ?_⟩
  -- a CHAT, FLOWER or LOGOUT comes from a connection with a session
  have hsession : msg.command ∈ [.chat, .flower, .logout] → ∃ origin,
      room.registry.session? id = some origin ∧ id ∈ room.registry.ids := by
    intro hcmd
    have hid : id ∈ room.registry.ids := not_not.1 (hstranger hcmd)
    obtain ⟨origin, ho⟩ := Option.isSome_iff_exists.1 ((Registry.session?_isSome_iff _ _).2 hid)
    exact ⟨origin, ho, hid⟩
  cases hcmd : msg.command with
  | system => exact absurd hcmd hsys
  | login =>
    obtain ⟨hname, hid⟩ := hlogin hcmd
    simp only [handled, hcmd, isBlank_eq_false_of_trim hname, nickname?_isSome_eq_false hid,
      Bool.false_eq_true, or_self, if_false,
      Registry.onLogin_of_not_mem hc hid, Option.map_some]
    -- the newcomer is greeted too
    refine ⟨_, _, _, rfl, .inr (exists_mem_deliveries ?_ (greeting_ne_close id msg _ now))⟩
    simp [Registry.loginSession]
  | chat =>
    obtain ⟨origin, ho, hid⟩ := hsession (by simp [hcmd])
    simp only [handled, hcmd, ho, Option.map_some]
    exact ⟨_, _, _, rfl, .inr (exists_mem_deliveries hid (copyFor_ne_close origin _))⟩
  | flower =>
    obtain ⟨origin, ho, hid⟩ := hsession (by simp [hcmd])
    simp only [handled, hcmd, ho, Option.map_some]
    split
    · exact ⟨_, _, _, rfl, .inr ⟨_, by simp, List.mem_singleton_self _⟩⟩
    · have hid' : id ∈ (room.registry.recordFlower origin.peer now).ids := by
        rwa [Registry.ids_recordFlower]
      exact ⟨_, _, _, rfl, .inr (exists_mem_deliveries hid' (copyFor_ne_close origin _))⟩
  | logout =>
    obtain ⟨-, -, hid⟩ := hsession (by simp [hcmd])
    obtain ⟨_, -, hd⟩ := departure?_of_mem hr hid
    simp only [handled, hcmd, hd, Option.map_some]
    exact ⟨_, _, _, rfl, .inl (by simp [Registry.leftBy, hcmd, hid])⟩

end TakenUp

/-- **A message the room takes up changes it.** In a consistent room, a message or a line whose
message the room does not ignore leaves the room changed: the stepping connection, when it takes
items, finds the push to it in its queue; otherwise, and on its LOGOUT, its session has ended and
it is closed, which it was not before. -/
theorem step_ne_of_not_ignored {room : Room} (hr : room.registry.Consistent) {st : Step}
    (hrel : st.releases = false) (h : ¬ st.Ignored room.registry) : room.step st ≠ room := by
  -- the step carries a message that the room takes up
  obtain ⟨msg, hmsg, hnot⟩ : ∃ msg ∈ st.message?, ¬ room.registry.Ignores st.peer msg := by
    by_contra hall
    refine h ⟨hrel, fun msg hm => ?_⟩
    by_contra hn
    exact hall ⟨msg, hm, hn⟩
  obtain ⟨hc, registry, sends, d?, hh, hself⟩ := handled_of_not_ignores hr st.now hnot
  have hlogged := messageLog_logged hr st.peer msg st.now
  intro heq
  rw [step_of_message? hmsg, messageLog_eq] at heq
  have hreg : (room.messageLog st.peer msg st.now).registry = room.registry :=
    congrArg Room.registry heq
  -- the stepping connection does not depart: it would be closed now
  have hstay : st.peer ∉ (room.messageLog st.peer msg st.now).departures.map (·.peer) := by
    intro hd
    have hclosed := hlogged.closed st.peer
    rw [hreg, hc] at hclosed
    simp [hd] at hclosed
  rcases hself with hleft | ⟨item, hitem, hmem⟩
  · rw [hleft] at hlogged
    exact hstay ((hlogged.departs _).2 (.inl (List.mem_singleton_self _)))
  · -- the handling's push to it is among the step's pushes
    have hsent : (st.peer, item) ∈ (room.messageLog st.peer msg st.now).sends := by
      simp [messageLog, hc, hh, StepLog.cascading, hmem]
    cases hacc : room.accepts st.peer
    · exact hstay ((hlogged.departs _).2 (.inr (mem_failedOf hacc hitem hsent)))
    · -- it takes items, so the push is in its queue, which the step left as it was
      obtain ⟨p, hp, hpacc⟩ : ∃ p, room.peer? st.peer = some p ∧ p.accepting = true := by
        simpa [accepts, Option.any_eq_true] using hacc
      have hq := queue_pushAll room (room.messageLog st.peer msg st.now).sends st.peer
      have hpeers : (room.pushAll (room.messageLog st.peer msg st.now).sends).peer? st.peer =
          room.peer? st.peer := by
        have hsame := congrArg Room.peers heq
        simp only [peer?]
        exact congrArg (·[st.peer]?) hsame
      rw [hpeers, hp] at hq
      simp only [Option.map_some, hpacc, if_true, Option.some.injEq, List.self_eq_append_right,
        List.map_eq_nil_iff, List.filter_eq_nil_iff, decide_eq_true_eq] at hq
      exact hq _ hsent rfl

end ChatHub.Room
