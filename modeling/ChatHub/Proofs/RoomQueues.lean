import ChatHub.Proofs.Ignored
/-!
# ChatHub — a queue taken away

Whatever serves a connection takes the items queued for it, and the room never reads a queue
back: a step reads the registry, which connections take items, and a connection's terminal and
address. So a step from a room whose queue for one connection was replaced does what it does
from the room itself, and that queue gets the step's items after the replacement:

* **`step_setQueue`** — a step from a room with one queue replaced is the step from the room,
  with that queue replaced by the replacement and the items the step sends the connection, when
  the connection takes items;
* **`queueOf_step`** — a step appends to each connection that takes items exactly the items its
  log sends it, in order;
* **`step_isClosed_of_close`** — a message or a line that asks its own connection to close, when
  the connection takes items, leaves it closed: only its LOGOUT asks, as the eviction cascade
  asks only the connections that take no items;
* **`sentTo_disconnect`** — the first item a connection that goes away gets is the request to
  close it: the notices of its departure go to the sessions left, none of them its own.
-/

namespace ChatHub.Room

/-- The items queued for a connection; none for a connection that does not exist. -/
def queueOf (room : Room) (id : PeerId) : List Outbound :=
  ((room.peer? id).map (·.queue)).getD []

/-- The room with a connection's queue replaced. -/
def setQueue (room : Room) (id : PeerId) (q : List Outbound) : Room :=
  { room with peers := room.peers.modify id fun p => { p with queue := q } }

/-- The items a list of pushes sends to a connection, in order. -/
def sentTo (sends : List (PeerId × Outbound)) (id : PeerId) : List Outbound :=
  (sends.filter (·.1 = id)).map (·.2)

@[simp] theorem sentTo_nil (id : PeerId) : sentTo [] id = [] := rfl

theorem sentTo_cons (s : PeerId × Outbound) (sends : List (PeerId × Outbound)) (id : PeerId) :
    sentTo (s :: sends) id = if s.1 = id then s.2 :: sentTo sends id else sentTo sends id := by
  by_cases h : s.1 = id <;> simp [sentTo, h]

theorem sentTo_append (a b : List (PeerId × Outbound)) (id : PeerId) :
    sentTo (a ++ b) id = sentTo a id ++ sentTo b id := by
  simp [sentTo, List.filter_append]

/-- Two rooms with the same registry and the same connections are the same room. -/
theorem ext_peer? {r₁ r₂ : Room} (hreg : r₁.registry = r₂.registry)
    (hpeers : ∀ x, r₁.peer? x = r₂.peer? x) : r₁ = r₂ := by
  cases r₁
  cases r₂
  simp only at hreg
  subst hreg
  congr
  exact Array.ext_getElem? hpeers

/-! ## The room with a queue replaced -/

section SetQueue

variable (room : Room) (id : PeerId) (q : List Outbound)

@[simp] theorem registry_setQueue : (room.setQueue id q).registry = room.registry := rfl

theorem peer?_setQueue (x : PeerId) :
    (room.setQueue id q).peer? x =
      (room.peer? x).map fun p => if x = id then { p with queue := q } else p := by
  simp only [setQueue, peer?, Array.getElem?_modify]
  by_cases hx : x = id
  · subst hx
    simp
  · simp [hx, Ne.symm hx]

@[simp] theorem accepts_setQueue : (room.setQueue id q).accepts = room.accepts := by
  funext x
  simp only [accepts, peer?_setQueue]
  cases room.peer? x with
  | none => rfl
  | some p => by_cases hx : x = id <;> simp [hx]

theorem terminal_setQueue (x : PeerId) :
    ((room.setQueue id q).peer? x).map (·.terminal) = (room.peer? x).map (·.terminal) := by
  rw [peer?_setQueue]
  cases room.peer? x with
  | none => rfl
  | some p => by_cases hx : x = id <;> simp [hx]

theorem addr_setQueue (x : PeerId) :
    ((room.setQueue id q).peer? x).map (·.addr) = (room.peer? x).map (·.addr) := by
  rw [peer?_setQueue]
  cases room.peer? x with
  | none => rfl
  | some p => by_cases hx : x = id <;> simp [hx]

/-- Putting back the queue a connection has changes nothing. -/
theorem setQueue_queueOf : room.setQueue id (room.queueOf id) = room := by
  refine ext_peer? rfl fun x => ?_
  simp only [peer?_setQueue, queueOf]
  cases hp : room.peer? x with
  | none => rfl
  | some p =>
    by_cases hx : x = id
    · subst hx
      simp [hp]
    · simp [hx]

/-- A step reads the room through its registry, which connections take items, and their
terminals and addresses, none of which a queue changes. -/
theorem stepLog_setQueue (st : Step) : (room.setQueue id q).stepLog st = room.stepLog st := by
  have hhandled : ∀ x msg now, (room.setQueue id q).handled x msg now = room.handled x msg now := by
    intro x msg now
    simp only [handled, registry_setQueue, terminal_setQueue, addr_setQueue]
    rfl
  cases st <;>
    simp only [stepLog, messageLog, leaving, registry_setQueue, accepts_setQueue, hhandled]

/-- A push to a room with a queue replaced is the push to the room, with the queue replaced by
the replacement and the pushed item when it lands there. -/
theorem push_setQueue (x : PeerId) (item : Outbound) :
    (room.setQueue id q).push x item =
      ((room.push x item).1, (room.push x item).2.setQueue id
        (if x = id ∧ room.accepts id then q ++ [item] else q)) := by
  refine Prod.ext (by rw [push_fst, push_fst, accepts_setQueue]) (ext_peer? ?_ fun y => ?_)
  · simp only [push_registry, registry_setQueue]
  · simp only [peer?_push, peer?_setQueue, Option.map_map]
    cases hy : room.peer? y with
    | none => rfl
    | some p =>
      have hacc : room.accepts y = p.accepting := by simp [accepts, hy]
      by_cases hyx : y = x
      · subst hyx
        by_cases hyid : y = id
        · -- the push lands in the replaced queue
          subst hyid
          cases hp : p.accepting <;> simp [Peer.push, hacc, hp]
        · simp [hyid]
      · by_cases hyid : y = id
        · subst hyid
          simp [hyx, Ne.symm hyx]
        · simp [hyx, hyid]

/-- A list of pushes to a room with a queue replaced makes the same pushes, and the queue gets
the replacement and the items pushed onto it. -/
theorem pushAll_setQueue (sends : List (PeerId × Outbound)) :
    (room.setQueue id q).pushAll sends =
      (room.pushAll sends).setQueue id (if room.accepts id then q ++ sentTo sends id else q) := by
  induction sends generalizing room q with
  | nil => simp
  | cons s sends ih =>
    rw [pushAll_cons, push_setQueue, ih, accepts_push, pushAll_cons, sentTo_cons]
    by_cases hs : s.1 = id <;> cases room.accepts id <;> simp [hs]

end SetQueue

/-! ## A step and the queues -/

@[simp] theorem accepts_step (room : Room) (st : Step) : (room.step st).accepts = room.accepts := by
  rw [step_eq, accepts_setRegistry, accepts_pushAll]

/-- **A step from a room with a queue replaced.** It makes the room's own step, and the queue
gets the replacement followed by the items the step sends the connection, when the connection
takes items. -/
theorem step_setQueue (room : Room) (id : PeerId) (q : List Outbound) (st : Step) :
    (room.setQueue id q).step st =
      (room.step st).setQueue id
        (if room.accepts id then q ++ sentTo (room.stepLog st).sends id else q) := by
  rw [step_eq, step_eq, stepLog_setQueue, pushAll_setQueue]
  rfl

/-- **What a step queues.** A step appends to each connection that takes items the items its
log sends it, in order, and leaves any other queue as it was. -/
theorem queueOf_step (room : Room) (st : Step) (id : PeerId) :
    (room.step st).queueOf id =
      room.queueOf id ++ if room.accepts id then sentTo (room.stepLog st).sends id else [] := by
  have hq := queue_pushAll room (room.stepLog st).sends id
  have hpeer : (room.step st).peer? id = (room.pushAll (room.stepLog st).sends).peer? id := by
    rw [step_eq]
    rfl
  simp only [queueOf, accepts, hpeer, hq]
  -- the connection, when it exists, either takes the step's items or keeps its queue
  have hopt : ∀ o : Option Peer,
      (o.map fun p => if p.accepting then p.queue ++ sentTo (room.stepLog st).sends id
        else p.queue).getD [] =
      (o.map (·.queue)).getD [] ++
        if o.any (·.accepting) then sentTo (room.stepLog st).sends id else [] := by
    intro o
    cases o with
    | none => simp
    | some p => cases hacc : p.accepting <;> simp [hacc]
  exact hopt (room.peer? id)

/-! ## Close requests -/

theorem close_mem_sentTo {sends : List (PeerId × Outbound)} {id : PeerId} :
    Outbound.close ∈ sentTo sends id ↔ (id, .close) ∈ sends := by
  simp only [sentTo, List.mem_map, List.mem_filter, decide_eq_true_eq]
  constructor
  · rintro ⟨⟨x, o⟩, ⟨hmem, rfl⟩, rfl⟩
    exact hmem
  · intro h
    exact ⟨(id, .close), ⟨h, rfl⟩, rfl⟩

theorem sentTo_deliveries (item : Session → Outbound) (ss : List Session) (id : PeerId) :
    sentTo (deliveries item ss) id = (ss.filter (·.peer = id)).map item := by
  simp [sentTo, deliveries, List.filter_map, Function.comp_def]

theorem close_not_mem_deliveries {item : Session → Outbound} (hitem : ∀ s, item s ≠ .close)
    (ss : List Session) (id : PeerId) : (id, Outbound.close) ∉ deliveries item ss := by
  simp only [deliveries, List.mem_map, Prod.mk.injEq, not_exists, not_and]
  exact fun s _ _ h => hitem s h

theorem close_not_mem_departure (d : Departure) (now : UInt64) (id : PeerId) :
    (id, Outbound.close) ∉ d.sends now :=
  close_not_mem_deliveries (fun _ => itemFor_ne_close _ _) _ id

/-- A departure marks its connection closed and keeps every closed mark. -/
theorem isClosed_departure? {r r' : Registry} {x : PeerId} {d : Departure}
    (h : r.departure? x = some (d, r')) (y : PeerId) :
    r'.isClosed y = (r.isClosed y || y == x) := by
  obtain ⟨⟨nickname, r''⟩, hout, he⟩ := Option.map_eq_some_iff.1 h
  simp only [Prod.mk.injEq] at he
  obtain ⟨-, rfl⟩ := he
  unfold Registry.onLogout at hout
  split at hout
  · cases hout
  · cases hout
    by_cases hy : y = x
    · subst hy
      split_ifs with hc <;> simp_all [Registry.isClosed]
    · split_ifs <;> simp [Registry.isClosed, hy]

/-- The cascade keeps every closed mark. -/
theorem isClosed_cascade (acc : PeerId → Bool) {r : Registry} (stack : List PeerId) {y : PeerId} :
    r.isClosed y = true → (cascade acc r stack).2.isClosed y = true := by
  fun_induction cascade acc r stack with
  | case1 r => exact id
  | case2 r x rest hnone ih => exact ih
  | case3 r x rest d r' hsome hlen ih =>
    intro h
    exact ih (by rw [isClosed_departure? hsome, h, Bool.true_or])

/-- The cascade takes off only connections that take no items, when its stack holds only
those: the connections a notice failed for take none. -/
theorem cascade_pops_refused (acc : PeerId → Bool) {r : Registry} (stack : List PeerId) :
    (∀ x ∈ stack, acc x = false) → ∀ pop ∈ (cascade acc r stack).1, acc pop.1 = false := by
  fun_induction cascade acc r stack with
  | case1 r => simp
  | case2 r x rest hnone ih =>
    intro hstack pop hpop
    simp only [Prod.map, List.mem_cons] at hpop
    rcases hpop with rfl | hpop
    · exact hstack x (List.mem_cons_self ..)
    · exact ih (fun z hz => hstack z (List.mem_cons_of_mem _ hz)) pop hpop
  | case3 r x rest d r' hsome hlen ih =>
    intro hstack pop hpop
    simp only [Prod.map, List.mem_cons] at hpop
    rcases hpop with rfl | hpop
    · exact hstack x (List.mem_cons_self ..)
    · refine ih (fun z hz => ?_) pop hpop
      rcases List.mem_append.1 hz with hz | hz
      · simp only [Departure.failed, List.mem_reverse, List.mem_map, List.mem_filter,
          Bool.not_eq_true'] at hz
        obtain ⟨s, ⟨-, hs⟩, rfl⟩ := hz
        exact hs
      · exact hstack z (List.mem_cons_of_mem _ hz)

/-- A handling asks its own connection to close only on a LOGOUT, which marks it closed. -/
theorem isClosed_of_handled_close {room : Room} {id : PeerId} {msg : Message} {now : UInt64}
    {registry : Registry} {sends : List (PeerId × Outbound)} {d? : Option Departure}
    (h : room.handled id msg now = some (registry, sends, d?)) (hc : (id, .close) ∈ sends) :
    registry.isClosed id = true := by
  unfold handled at h
  cases hcmd : msg.command <;> simp only [hcmd] at h
  case login =>
    split_ifs at h
    obtain ⟨⟨count, r⟩, -, he⟩ := Option.map_eq_some_iff.1 h
    simp only [Prod.mk.injEq] at he
    obtain ⟨-, rfl, -⟩ := he
    exact absurd hc (close_not_mem_deliveries (greeting_ne_close id msg count now) _ id)
  case chat =>
    obtain ⟨origin, -, he⟩ := Option.map_eq_some_iff.1 h
    simp only [Prod.mk.injEq] at he
    obtain ⟨-, rfl, -⟩ := he
    exact absurd hc (close_not_mem_deliveries (copyFor_ne_close origin _) _ id)
  case flower =>
    obtain ⟨origin, -, he⟩ := Option.map_eq_some_iff.1 h
    split at he
    · -- too soon: the reply is a line
      simp only [Prod.mk.injEq] at he
      obtain ⟨-, rfl, -⟩ := he
      simp at hc
    · simp only [Prod.mk.injEq] at he
      obtain ⟨-, rfl, -⟩ := he
      exact absurd hc (close_not_mem_deliveries (copyFor_ne_close origin _) _ id)
  case logout =>
    obtain ⟨⟨d, r⟩, hdep, he⟩ := Option.map_eq_some_iff.1 h
    simp only [Prod.mk.injEq] at he
    obtain ⟨rfl, -, -⟩ := he
    rw [isClosed_departure? hdep, beq_self_eq_true, Bool.or_true]
  case system => cases h

/-- A message that asks its own connection to close, when the connection takes items, leaves it
closed. -/
theorem isClosed_of_close_sent {room : Room} {id : PeerId} {msg : Message} {now : UInt64}
    (hacc : room.accepts id = true) (hc : (id, .close) ∈ (room.messageLog id msg now).sends) :
    (room.handleAt id msg now).registry.isClosed id = true := by
  rw [messageLog_eq]
  by_cases hclosed : room.registry.isClosed id = true
  · simp [messageLog, hclosed, StepLog.idle] at hc
  · unfold messageLog at hc ⊢
    simp only [hclosed, Bool.false_eq_true, if_false] at hc ⊢
    cases hh : room.handled id msg now with
    | none => simp [hh, StepLog.idle] at hc
    | some p =>
      obtain ⟨registry, sends, d?⟩ := p
      simp only [hh, StepLog.cascading] at hc ⊢
      rcases List.mem_append.1 hc with hs | hpop
      · exact isClosed_cascade _ _ (isClosed_of_handled_close hh hs)
      · -- the cascade asks only the connections that take no items to close
        exfalso
        simp only [popSends, List.mem_flatMap, List.mem_cons, Prod.mk.injEq] at hpop
        obtain ⟨⟨x, e?⟩, hx, ⟨rfl, -⟩ | hin⟩ := hpop
        · have hrefused : ∀ z ∈ (failedOf room.accepts sends).reverse, room.accepts z = false := by
            intro z hz
            simp only [failedOf, refused, List.mem_reverse, List.mem_map, List.mem_filter,
              Bool.not_eq_true'] at hz
            obtain ⟨s, ⟨-, hs⟩, rfl⟩ := hz
            exact hs
          have := cascade_pops_refused room.accepts _ hrefused _ hx
          simp_all
        · cases e? with
          | none => simp at hin
          | some e => exact close_not_mem_departure e now id (by simpa using hin)

/-- **A close request closes.** A message or a line that asks its own connection to close, when
that connection takes items, leaves it closed. -/
theorem step_isClosed_of_close {room : Room} {st : Step} (hst : ∀ id now, st ≠ .disconnect id now)
    (hacc : room.accepts st.peer = true)
    (hc : Outbound.close ∈ sentTo (room.stepLog st).sends st.peer) :
    (room.step st).registry.isClosed st.peer = true := by
  rw [close_mem_sentTo] at hc
  cases st with
  | message id msg now => exact isClosed_of_close_sent hacc hc
  | text id line now =>
    simp only [stepLog, step, handleText, Step.peer] at hc hacc ⊢
    cases hd : Line.decode line with
    | none => simp [hd, StepLog.idle] at hc
    | some msg =>
      simp only [hd] at hc ⊢
      exact isClosed_of_close_sent hacc hc
  | disconnect id now => exact absurd rfl (hst id now)

/-- **The last items of a connection that goes away.** In a consistent room, the first item a
connection that goes away is sent is the request to close it. -/
theorem sentTo_disconnect {room : Room} (hr : room.registry.Consistent) (id : PeerId) (now : UInt64) :
    ∃ rest, sentTo (room.stepLog (.disconnect id now)).sends id = .close :: rest := by
  -- the notices of its own departure go to the sessions left, none of them its own
  have hleave : sentTo (room.leaving id now).2.1 id = [] := by
    unfold leaving
    by_cases hid : id ∈ room.registry.ids
    · obtain ⟨nickname, -, hdep⟩ := departure?_of_mem hr hid
      simp only [hdep, Departure.sends, sentTo_deliveries, List.map_eq_nil_iff,
        List.filter_eq_nil_iff, decide_eq_true_eq]
      intro s hs
      simpa using (List.mem_filter.1 hs).2
    · simp [departure?_of_not_mem hid]
  refine ⟨sentTo (popSends now (cascade room.accepts (room.leaving id now).1
    (failedOf room.accepts ((room.leaving id now).2.1 ++ [(id, .close)])).reverse).1) id, ?_⟩
  simp [stepLog, StepLog.cascading, sentTo_append, hleave, sentTo_cons]

/-! ## The serving side gone -/

/-- The room after the serving side of a connection has gone: its queue taken, and no more items
taken. -/
def detach (room : Room) (id : PeerId) : Room :=
  { room with peers := room.peers.modify id fun p => { p with queue := [], accepting := false } }

/-- A writer takes the queue of a connection that takes items, which goes on taking them. -/
theorem take_setQueue {room : Room} {id : PeerId} (h : room.accepts id = true) (q : List Outbound) :
    ({ room.setQueue id q with
        peers := (room.setQueue id q).peers.modify id fun p => { p with queue := [], accepting := true } } :
      Room) = room.setQueue id [] := by
  refine ext_peer? rfl fun x => ?_
  simp only [accepts, peer?] at h
  simp only [setQueue, peer?, Array.getElem?_modify]
  by_cases hx : id = x
  · subst hx
    cases hp : room.peers[id]? with
    | none => simp
    | some p =>
      simp only [hp, Option.any_some] at h
      simp [h]
  · simp [hx]

/-- A writer that stops takes the queue, and the connection then takes no items. -/
theorem detach_take_setQueue (room : Room) (id : PeerId) (q : List Outbound) (alive : Bool) :
    ({ room.setQueue id q with
        peers := (room.setQueue id q).peers.modify id fun p => { p with queue := [], accepting := alive } } :
      Room).detach id = room.detach id := by
  refine ext_peer? rfl fun x => ?_
  simp only [detach, setQueue, peer?, Array.getElem?_modify]
  by_cases hx : id = x
  · subst hx
    simp [Option.map_map, Function.comp_def]
  · simp [hx]

end ChatHub.Room
