import ChatHub.Proofs.StepSpec
/-!
# ChatHub — who departs in a step

A step can end sessions: the stepping connection's own, on a LOGOUT or when the connection goes
away, and that of every connection a push failed for, the pushes of the notices that announce
other departures included. `Departs` says what a step does about departures, and:

* **`step_departs`** — every step of every reachable room does it: the connections that depart
  are exactly the stepping connection, when the step is a LOGOUT from it or it going away while
  it has a session, and every connection a push of a message or a line failed for; each departs
  once; at each departure every session still there, and no other, gets one notice from the hub
  that the connection left, with the number of sessions still there, natively exactly on a
  console; and each departed connection is asked to close and is closed afterwards, but for the
  connection that went away, whose mark is lifted.

A step always ends: the eviction stack is measured by the number of sessions and then its own
length (`evict`), and each departure removes a session.
-/

namespace ChatHub.Room

/-- What a step from `room` does about departures, with `log` its log (`stepLog`):
* the room after the step is the log's registry with the log's pushes applied in order;
* the connections that depart are distinct, and they are exactly the stepping connection when
  the step ends its session by itself and it has one, and every connection that a push of a
  message or a line failed for;
* the sessions left are those the departures began from less the departed; those are the
  room's sessions, with the same nickname, address and terminal, followed by the connection the
  step logged in;
* at each departure, with `pre` the departures before it: the sessions still there are those the
  departures began from less `pre` and itself, one per connection; its connection had a session
  under the departing nickname; each session still there gets, in one block, one notice from
  the hub, natively exactly on a console; the connection is asked to close, and it is closed
  after the step unless the step is it going away. -/
structure Departs (room : Room) (st : Step) (log : StepLog) : Prop where
  step_eq : room.step st = { room.pushAll log.sends with registry := log.registry }
  once : (log.departures.map (·.peer)).Nodup
  departed_iff : ∀ x, x ∈ log.departures.map (·.peer) ↔
    (st.logsOut ∧ st.peer = x ∧ x ∈ room.registry.ids) ∨ x ∈ failedOf room.accepts log.sends
  active : (room.step st).registry.active =
    log.sessions.filter (·.peer ∉ log.departures.map (·.peer))
  sessions : log.sessions.map (·.peer) = room.registry.ids ++ st.joined room.registry
  kept : (room.registry.active.map Session.identity).IsPrefix (log.sessions.map Session.identity)
  at_departure : ∀ pre d post, log.departures = pre ++ d :: post →
    d.rest = log.sessions.filter (fun s => s.peer ∉ pre.map (·.peer) ++ [d.peer]) ∧
    (d.rest.map (·.peer)).Nodup ∧
    (∃ s ∈ log.sessions, s.peer = d.peer ∧ s.nickname = d.nickname) ∧
    (d.rest.map fun s => (s.peer, itemFor
      { command := .system, sender := "admin", content := d.nickname ++ " left the room...",
        sendingTime := st.now, onlineCount := online d.rest.length }
      (s.terminal == .console))).IsInfix log.sends ∧
    (d.peer, .close) ∈ log.sends ∧
    (room.step st).registry.isClosed d.peer = !(st.releases && st.peer == d.peer)

/-- **What a step does about departures.** Every step of every reachable room `Departs`. -/
theorem step_departs {room : Room} (hroom : Reachable room) (st : Step) :
    Departs room st (room.stepLog st) := by
  have h := stepLog_logged hroom.consistent st
  refine ⟨step_eq room st, h.nodup, fun x => ?_, step_registry room st ▸ h.active, h.peers, h.kept,
    ?_⟩
  · rw [h.departs x, Step.mem_lead]
  · intro pre d post he
    have hd : d ∈ (room.stepLog st).departures :=
      he ▸ List.mem_append_right _ (List.mem_cons_self ..)
    have hrest := h.rest pre d post he
    have hnodup : (d.rest.map (·.peer)).Nodup := by
      rw [hrest]
      exact h.sessions_nodup.sublist ((List.filter_sublist).map _)
    refine ⟨hrest, hnodup, h.nickname d hd, h.notices d hd, h.closes d hd, ?_⟩
    -- a departed connection is closed unless the step lifts its mark
    have hmem : d.peer ∈ (room.stepLog st).departures.map (·.peer) := List.mem_map_of_mem hd
    rw [step_registry, h.closed]
    cases hrel : st.releases
    · simp [hmem, Step.released, hrel]
    · by_cases hp : st.peer = d.peer
      · simp [hmem, Step.released, hrel, hp]
      · simp [hmem, Step.released, hrel, hp, Ne.symm hp]

/-- Ann on a console and bob on a web socket, both logged in, bob's receiving end gone. -/
def annAndBob : Room :=
  [.connect "10.0.0.1" .console, .connect "10.0.0.2" .webSocket,
    .message 0 (.login "ann" .console 1) 1, .message 1 (.login "bob" .webSocket 2) 2,
    .drop 1].foldl (fun room a => (room.perform a).2) {}

/-- Ann logs out; her notice to bob fails, and bob departs after her. -/
theorem step_departs_logout_cascade :
    Reachable annAndBob ∧ Departs annAndBob (.message 0 (.logout "ann" 3) 3)
      (annAndBob.stepLog (.message 0 (.logout "ann" 3) 3)) :=
  ⟨Reachable.empty.foldl_perform _, step_departs (Reachable.empty.foldl_perform _) _⟩

end ChatHub.Room
