import ChatHub.Proofs.StepSpec
/-!
# ChatHub — a connection's status from step to step

No field holds a connection's status: it is read off the registry, active when the connection
has a session, closed when it is marked closed, and unauthenticated otherwise (`Registry.status`).
`Status.next` is the table of how a step may change it, and:

* **`status_step`** — in every step of every reachable room each connection's status follows
  the table: an unauthenticated connection becomes active only on its own LOGIN with a sender
  that is not blank, or closed when a push to it fails in that same step; an active one becomes
  closed exactly on its own LOGOUT or a failed push to it; any status becomes unauthenticated
  only when the connection goes away. A session that stays active keeps its nickname, terminal
  and address, and along any run without its going away a closed connection stays closed.
-/

namespace ChatHub.Room

/-- A connection's status in the room. -/
inductive Status where
  | unauthenticated
  | active
  | closed
  deriving DecidableEq, Repr

/-- A connection's status in a registry: active when it has a session, closed when it is marked
closed, and unauthenticated otherwise. -/
def Registry.status (r : Registry) (x : PeerId) : Status :=
  if x ∈ r.ids then .active else if r.isClosed x then .closed else .unauthenticated

/-- The status a connection `x` moves to in a step from status `s`, where `failed` says whether
a push of a message or a line to it failed during the step. -/
def Status.next (s : Status) (st : Step) (x : PeerId) (failed : Bool) : Status :=
  match s with
  | .unauthenticated =>
    if st.logsIn ∧ st.peer = x then (if failed then .closed else .active) else .unauthenticated
  | .active =>
    if st.releases ∧ st.peer = x then .unauthenticated
    else if (st.logsOut ∧ st.peer = x) ∨ failed then .closed else .active
  | .closed => if st.releases ∧ st.peer = x then .unauthenticated else .closed

/-! ## Reading the status -/

theorem Registry.status_active_iff {r : Registry} {x : PeerId} :
    r.status x = .active ↔ x ∈ r.ids := by
  unfold Registry.status
  split
  · next hx => simpa using hx
  · next hx => split <;> simpa using hx

theorem Registry.status_unauthenticated_iff {r : Registry} {x : PeerId} :
    r.status x = .unauthenticated ↔ x ∉ r.ids ∧ r.isClosed x = false := by
  unfold Registry.status
  split
  · next hx => simp [hx]
  · next hx =>
    split
    · next hc => simp [hc]
    · next hc => simpa [hx] using Bool.eq_false_iff.2 hc

theorem Registry.status_closed_iff {r : Registry} (hr : r.Consistent) {x : PeerId} :
    r.status x = .closed ↔ r.isClosed x = true := by
  unfold Registry.status
  split
  · next hx => simpa using hr.not_closed_of_mem x hx
  · split
    · next hc => simpa using hc
    · next hc => simpa using hc

theorem mem_ids_filter {ss : List Session} {D : List PeerId} {x : PeerId} :
    x ∈ (ss.filter (·.peer ∉ D)).map (·.peer) ↔ x ∈ ss.map (·.peer) ∧ x ∉ D := by
  simp only [List.mem_map, List.mem_filter, decide_eq_true_eq]
  constructor
  · rintro ⟨s, ⟨hs, hD⟩, rfl⟩
    exact ⟨⟨s, hs, rfl⟩, hD⟩
  · rintro ⟨⟨s, hs, rfl⟩, hD⟩
    exact ⟨s, ⟨hs, hD⟩, rfl⟩

section Logged

variable {acc : PeerId → Bool} {now : UInt64} {r₀ : Registry} {joined lead released : List PeerId}
  {log : StepLog} (h : Logged acc now r₀ joined lead released log)
include h

/-- A departing connection had a session when the departures began. -/
theorem Logged.mem_sessions_of_departed {x : PeerId} (hx : x ∈ log.departures.map (·.peer)) :
    x ∈ r₀.ids ∨ x ∈ joined := by
  obtain ⟨d, hd, rfl⟩ := List.mem_map.1 hx
  obtain ⟨s, hs, hpeer, -⟩ := h.nickname d hd
  rw [← List.mem_append, ← h.peers, ← hpeer]
  exact List.mem_map_of_mem hs

theorem Logged.not_departed {x : PeerId} (hid : x ∉ r₀.ids) (hj : x ∉ joined) :
    x ∉ log.departures.map (·.peer) :=
  fun hx => (h.mem_sessions_of_departed hx).elim hid hj

/-- The status after a step, from its log: active for a connection with a session when the
departures began that did not depart, closed for one that was closed or departed and is not
released, unauthenticated otherwise. -/
theorem Logged.status (x : PeerId) :
    log.registry.status x =
      if (x ∈ r₀.ids ∨ x ∈ joined) ∧ x ∉ log.departures.map (·.peer) then .active
      else if (r₀.isClosed x ∨ x ∈ log.departures.map (·.peer)) ∧ x ∉ released then .closed
      else .unauthenticated := by
  have hids : x ∈ log.registry.ids ↔ (x ∈ r₀.ids ∨ x ∈ joined) ∧ x ∉ log.departures.map (·.peer) := by
    rw [Registry.ids, h.active, mem_ids_filter, h.peers, List.mem_append]
  have hclosed := h.closed x
  unfold Registry.status
  simp only [hids, hclosed, Bool.and_eq_true, Bool.or_eq_true, decide_eq_true_eq]

end Logged

/-! ## The table -/

/-- **A step's status table, from the log.** From a consistent registry, each connection's
status after a step's log is the table's. -/
theorem stepLog_status {room : Room} (hr : room.registry.Consistent) (st : Step) (x : PeerId) :
    (room.stepLog st).registry.status x =
      (room.registry.status x).next st x (decide (x ∈ failedOf room.accepts (room.stepLog st).sends)) := by
  have h := stepLog_logged hr st
  have hD : x ∈ (room.stepLog st).departures.map (·.peer) ↔
      (st.logsOut ∧ st.peer = x ∧ x ∈ room.registry.ids) ∨
        x ∈ failedOf room.accepts (room.stepLog st).sends := by
    rw [h.departs x, Step.mem_lead]
  rw [h.status x]
  simp only [Step.mem_released, Step.mem_joined]
  -- one case per row of the table
  cases hs : room.registry.status x with
  | unauthenticated =>
    obtain ⟨hid, hc⟩ := Registry.status_unauthenticated_iff.1 hs
    by_cases hin : st.logsIn ∧ st.peer = x
    · -- its own LOGIN: it joins, and departs only if a push to it failed
      have hrel : st.releases = false := by
        cases hr : st.releases
        · rfl
        · simp [Step.logsIn_of_releases hr] at hin
      simp only [hD, hin, hid, hc, Status.next]
      by_cases hf : x ∈ failedOf room.accepts (room.stepLog st).sends <;> simp [hf, hrel]
    · -- anything else leaves it without a session, so it cannot depart
      have hnd := h.not_departed hid fun hj => hin ((Step.mem_joined.1 hj).imp_right (·.1))
      simp [hnd, hin, hid, hc, Status.next]
  | active =>
    have hid := Registry.status_active_iff.1 hs
    have hc : room.registry.isClosed x = false :=
      Bool.eq_false_iff.2 fun hc => hr.not_closed_of_mem x hid (by simpa using hc)
    simp only [hD, hid, hc, Status.next]
    by_cases hrel : st.releases ∧ st.peer = x
    · -- it goes away: it departs and its mark is lifted
      simp [hrel, Step.logsOut_of_releases hrel.1]
    · by_cases hgo : (st.logsOut ∧ st.peer = x) ∨ x ∈ failedOf room.accepts (room.stepLog st).sends
      · simp only [hrel]
        rcases hgo with hgo | hgo <;> simp [hgo]
      · simp only [not_or] at hgo
        simp [hrel, hgo]
  | closed =>
    -- a closed connection cannot log in, so it has no session to lose
    have hc := (Registry.status_closed_iff hr).1 hs
    have hid : x ∉ room.registry.ids := fun hid => hr.not_closed_of_mem x hid (by simpa using hc)
    have hnd := h.not_departed hid fun hj => by simp [(Step.mem_joined.1 hj).2.2.2] at hc
    by_cases hrel : st.releases = true ∧ st.peer = x
    · simp [hnd, hid, hc, Status.next, hrel.1, hrel.2]
    · simp [hnd, hid, hc, Status.next, hrel]

/-! ## Who a session is -/

theorem find?_peer_filter {ss : List Session} {D : List PeerId} {x : PeerId} (hx : x ∉ D) :
    (ss.filter (·.peer ∉ D)).find? (·.peer == x) = ss.find? (·.peer == x) := by
  rw [List.find?_filter]
  congr 1
  funext s
  by_cases hs : s.peer = x
  · simp [hs, hx]
  · simp [hs]

theorem map_identity_find? (ss : List Session) (x : PeerId) :
    (ss.find? (·.peer == x)).map Session.identity = (ss.map Session.identity).find? (·.1 == x) := by
  rw [List.find?_map]
  rfl

/-- **A session that stays keeps who it is.** A connection with a session before and after a
step has the same nickname, terminal and address after it: the sessions the departures begin
from start with the room's, and a session that does not depart is left as it was there. -/
theorem stepLog_identity {room : Room} (hr : room.registry.Consistent) (st : Step) {x : PeerId}
    (hbefore : x ∈ room.registry.ids) (hafter : x ∈ (room.stepLog st).registry.ids) :
    ((room.stepLog st).registry.session? x).map Session.identity =
      (room.registry.session? x).map Session.identity := by
  have h := stepLog_logged hr st
  have hnd : x ∉ (room.stepLog st).departures.map (·.peer) := by
    rw [Registry.ids, h.active, mem_ids_filter] at hafter
    exact hafter.2
  obtain ⟨s₀, hs₀⟩ := Option.isSome_iff_exists.1 ((Registry.session?_isSome_iff _ _).2 hbefore)
  have hfound : (room.registry.active.map Session.identity).find? (·.1 == x) = some s₀.identity := by
    rw [← map_identity_find?]
    simp only [Registry.session?] at hs₀
    rw [hs₀, Option.map_some]
  simp only [Registry.session?]
  -- the session is found first among the room's sessions, which begin the step's list
  rw [h.active, find?_peer_filter hnd, map_identity_find?, map_identity_find?, hfound]
  exact h.kept.find?_eq_some hfound

/-- **A closed connection stays closed** along any run of steps from a reachable room in which it
does not go away. The induction is on the run, each step by the table. -/
theorem closed_of_run {room : Room} (hroom : Reachable room) {x : PeerId}
    (hx : room.registry.status x = .closed) (sts : List Step)
    (hsts : ∀ st ∈ sts, ¬ (st.releases ∧ st.peer = x)) :
    (sts.foldl Room.step room).registry.status x = .closed := by
  induction sts generalizing room with
  | nil => exact hx
  | cons st sts ih =>
    apply ih (hroom.step st) _ fun st' h => hsts st' (List.mem_cons_of_mem _ h)
    rw [step_registry, stepLog_status hroom.consistent, hx]
    simp [Status.next, hsts st List.mem_cons_self]

/-! ## Every step of every reachable room -/

/-- How a step from `room` moves the status of a connection `x`:
* the room after the step is the log's registry with the log's pushes applied in order;
* the status after the step is the table's, `failed` saying whether a push of a message or a
  line to `x` failed during the step;
* a session active before and after the step keeps its nickname, terminal and address;
* along any run from `room` in which `x` does not go away, a closed `x` stays closed. -/
structure StatusMoves (room : Room) (st : Step) (x : PeerId) : Prop where
  step_eq : room.step st = { room.pushAll (room.stepLog st).sends with registry := (room.stepLog st).registry }
  next : (room.step st).registry.status x =
    (room.registry.status x).next st x (decide (x ∈ failedOf room.accepts (room.stepLog st).sends))
  keeps : room.registry.status x = .active → (room.step st).registry.status x = .active →
    ((room.step st).registry.session? x).map Session.identity =
      (room.registry.session? x).map Session.identity
  stays_closed : room.registry.status x = .closed → ∀ sts : List Step,
    (∀ st' ∈ sts, ¬ (st'.releases ∧ st'.peer = x)) →
      (sts.foldl Room.step room).registry.status x = .closed

/-- **How a step moves a connection's status.** In every step of every reachable room, every
connection's status `StatusMoves` by the table. -/
theorem status_step {room : Room} (hroom : Reachable room) (st : Step) (x : PeerId) :
    StatusMoves room st x := by
  have hr := hroom.consistent
  refine ⟨step_eq room st, ?_, fun ha ha' => ?_, fun hc sts hsts => closed_of_run hroom hc sts hsts⟩
  · rw [step_registry]
    exact stepLog_status hr st x
  · rw [step_registry] at ha' ⊢
    exact stepLog_identity hr st (Registry.status_active_iff.1 ha) (Registry.status_active_iff.1 ha')

/-- A connection whose receiving end is gone, before it logs in. -/
def droppedConnection : Room :=
  [.connect "10.0.0.1" .console, .drop 0].foldl (fun room a => (room.perform a).2) {}

/-- It logs in as ann; its greeting fails, and it ends closed within the same step. -/
theorem status_step_login_dropped :
    Reachable droppedConnection ∧
      StatusMoves droppedConnection (.message 0 (.login "ann" .console 1) 1) 0 :=
  ⟨Reachable.empty.foldl_perform _, status_step (Reachable.empty.foldl_perform _) _ _⟩

end ChatHub.Room
