import ChatHub.Proofs.Cascade
import ChatHub.Room.Script
/-!
# ChatHub — a step of the room, written down

A step of the room is a message or a line from a connection, or a connection going away. This
module writes down everything one step does as a `StepLog`: the sessions when its departures
begin, the registry it leaves, every push it makes in order, and its departures in order. The
handling of the message comes first (`handled`), then the eviction cascade of the connections
that pushes failed for.

* **`handler_eq`** — the handling of a message is its `handled` record: the registry it
  leaves, its pushes, and the connections they failed for;
* **`step_eq`** — the room after a step is the log's registry with the log's pushes applied.
-/

namespace ChatHub.Room

/-- A step of the room. -/
inductive Step where
  /-- A message from a connection at a time. -/
  | message (id : PeerId) (msg : Message) (now : UInt64)
  /-- A line from a connection at a time. -/
  | text (id : PeerId) (line : String) (now : UInt64)
  /-- A connection goes away at a time. -/
  | disconnect (id : PeerId) (now : UInt64)

namespace Step

/-- The connection a step comes from. -/
def peer : Step → PeerId
  | .message id .. | .text id .. | .disconnect id .. => id

/-- The time of a step. -/
def now : Step → UInt64
  | .message _ _ now | .text _ _ now | .disconnect _ now => now

/-- The message a step carries: the message itself, or the message its line decodes to. -/
def message? : Step → Option Message
  | .message _ msg _ => some msg
  | .text _ line _ => Line.decode line
  | .disconnect .. => none

end Step

/-- The room after a step. -/
def step (room : Room) : Step → Room
  | .message id msg now => room.handleAt id msg now
  | .text id line now => room.handleText id line now
  | .disconnect id now => room.disconnect id now

/-! ## Handling a message -/

/-- The handling of a message by command, before any eviction: the connections whose pushes
failed, and the room after it. -/
def handler (room : Room) (id : PeerId) (msg : Message) (now : UInt64) : List PeerId × Room :=
  match msg.command with
  | .login => room.login id msg now
  | .chat => room.chat id msg now
  | .flower => room.flower id now
  | .logout =>
    match room.logout id now with
    | some (failed, room) => (failed, room.close id)
    | none => ([], room)
  | .system => ([], room)

theorem handleAt_eq (room : Room) (id : PeerId) (msg : Message) (now : UInt64) :
    room.handleAt id msg now =
      if room.registry.isClosed id then room
      else (room.handler id msg now).2.evict (room.handler id msg now).1.reverse now := rfl

/-- The connections of a list of pushes that a message or line could not be pushed to; close
requests do not count, as their failure is never looked at. -/
def failedOf (acc : PeerId → Bool) (sends : List (PeerId × Outbound)) : List PeerId :=
  refused acc (sends.filter fun s => s.2 != .close)

/-- The greeting a login sends a session: "connected to server..." to the newcomer and
"<nickname> joined the room..." to the others, with the number of sessions. -/
def greeting (id : PeerId) (msg : Message) (count : Nat) (now : UInt64) (s : Session) : Outbound :=
  let content :=
    if s.peer == id then "connected to server..." else msg.sender ++ " joined the room..."
  itemFor (Message.system (online count) content now) (s.terminal == .console)

/-- The copy of a FLOWER from a sender. -/
def flowerMessage (origin : Session) (now : UInt64) (sender : String) : Message :=
  { Message.flower sender origin.terminal now with content := sender ++ " sent a shower of flowers" }

/-- What handling a message does before any eviction, when it does anything: the registry
after it, its pushes in order, and the sender's departure for a LOGOUT. -/
def handled (room : Room) (id : PeerId) (msg : Message) (now : UInt64) :
    Option (Registry × List (PeerId × Outbound) × Option Departure) :=
  match msg.command with
  | .login =>
    if Text.isBlank msg.sender.toList ∨ (room.registry.nickname? id).isSome then none
    else
      let own := (room.peer? id).map (·.terminal) |>.getD .console
      let addr := (room.peer? id).map (·.addr) |>.getD defaultAddr
      (room.registry.onLogin id addr own msg).map fun (count, registry) =>
        (registry, deliveries (greeting id msg count now) registry.active, none)
  | .chat =>
    (room.registry.session? id).map fun origin =>
      (room.registry,
        deliveries (copyFor origin fun sender => Message.chat sender msg.content now)
          room.registry.active, none)
  | .flower =>
    (room.registry.session? id).map fun origin =>
      if !room.registry.flowerAllowed origin.peer now then
        (room.registry,
          [(id, .text (Line.encode (cooldownReply (online room.registry.onlineCount)
            (secondsLeft (origin.lastFlower.getD now) now) now)))], none)
      else
        let registry := room.registry.recordFlower origin.peer now
        (registry, deliveries (copyFor origin (flowerMessage origin now)) registry.active, none)
  | .logout =>
    (room.registry.departure? id).map fun (d, registry) =>
      (registry, d.sends now ++ [(id, .close)], some d)
  | .system => none

theorem setRegistry_pushAll (room : Room) (sends : List (PeerId × Outbound)) :
    ({ room.pushAll sends with registry := room.registry } : Room) = room.pushAll sends := by
  conv => lhs; rw [← pushAll_registry room sends]

theorem itemFor_ne_close (msg : Message) (native : Bool) : itemFor msg native ≠ .close := by
  unfold itemFor
  split <;> simp

theorem failedOf_of_forall {acc : PeerId → Bool} {sends : List (PeerId × Outbound)}
    (h : ∀ s ∈ sends, s.2 ≠ .close) : failedOf acc sends = refused acc sends := by
  rw [failedOf, List.filter_eq_self.2]
  intro s hs
  simpa using h s hs

theorem failedOf_deliveries {acc : PeerId → Bool} {item : Session → Outbound}
    (h : ∀ s, item s ≠ .close) (ss : List Session) :
    failedOf acc (deliveries item ss) = refused acc (deliveries item ss) := by
  apply failedOf_of_forall
  intro s hs
  obtain ⟨x, -, rfl⟩ := List.mem_map.1 hs
  exact h x

theorem greeting_ne_close (id : PeerId) (msg : Message) (count : Nat) (now : UInt64) (s : Session) :
    greeting id msg count now s ≠ .close :=
  itemFor_ne_close _ _

theorem copyFor_ne_close (origin : Session) (make : String → Message) (s : Session) :
    copyFor origin make s ≠ .close :=
  itemFor_ne_close _ _

@[simp] theorem failedOf_nil (acc : PeerId → Bool) : failedOf acc [] = [] := rfl

@[simp] theorem failedOf_append (acc : PeerId → Bool) (a b : List (PeerId × Outbound)) :
    failedOf acc (a ++ b) = failedOf acc a ++ failedOf acc b := by
  simp [failedOf, refused, List.filter_append]

@[simp] theorem failedOf_close_cons (acc : PeerId → Bool) (x : PeerId)
    (sends : List (PeerId × Outbound)) : failedOf acc ((x, .close) :: sends) = failedOf acc sends := by
  simp [failedOf, refused]

theorem failedOf_sends (acc : PeerId → Bool) (d : Departure) (now : UInt64) :
    failedOf acc (d.sends now) = d.failed acc := by
  rw [Departure.sends, failedOf_deliveries (fun _ => itemFor_ne_close _ _), ← Departure.sends,
    refused_sends]

theorem failedOf_departure (acc : PeerId → Bool) (d : Departure) (now : UInt64) (id : PeerId) :
    failedOf acc (d.sends now ++ [(id, .close)]) = d.failed acc := by
  rw [failedOf_append, failedOf_sends, failedOf_close_cons, failedOf_nil, List.append_nil]

/-- **Handling is its log.** The handling of a message does nothing when its log is none, and
otherwise leaves the log's registry, makes the log's pushes, and reports as failed the
connections that a message or line could not be pushed to. -/
theorem handler_eq (room : Room) (id : PeerId) (msg : Message) (now : UInt64) :
    room.handler id msg now =
      match room.handled id msg now with
      | none => ([], room)
      | some (registry, sends, _) =>
        (failedOf room.accepts sends, { room.pushAll sends with registry }) := by
  unfold handler handled
  cases msg.command with
  | login =>
    unfold login
    by_cases hb : Text.isBlank msg.sender.toList = true
    · simp [hb]
    · by_cases hn : (room.registry.nickname? id).isSome = true
      · simp [hn]
      · simp only [Bool.not_eq_true] at hb hn
        simp only [hb, hn, Bool.false_eq_true, if_false, or_self]
        cases room.registry.onLogin id _ _ msg with
        | none => rfl
        | some p =>
          simp only [Option.map_some, deliverAll_eq, accepts_setRegistry, pushAll_setRegistry]
          rw [failedOf_deliveries (greeting_ne_close id msg p.1 now)]
          rfl
  | chat =>
    unfold chat
    cases room.registry.session? id with
    | none => rfl
    | some origin =>
      simp only [Option.map_some, deliverAll_eq]
      rw [failedOf_deliveries (copyFor_ne_close origin _), setRegistry_pushAll]
  | flower =>
    unfold flower
    cases room.registry.session? id with
    | none => rfl
    | some origin =>
      simp only [Option.map_some]
      split
      · -- too soon: only the reply to the sender
        simp only [push_fst, setRegistry_pushAll]
        cases h : room.accepts id <;> simp [failedOf, refused, h]
      · simp only [deliverAll_eq, accepts_setRegistry, pushAll_setRegistry]
        rw [failedOf_deliveries (copyFor_ne_close origin _)]
        rfl
  | logout =>
    rw [logout_eq]
    cases room.registry.departure? id with
    | none => rfl
    | some p =>
      obtain ⟨d, registry⟩ := p
      simp only [Option.map_some, failedOf_departure, refused_sends, close_eq, pushAll_setRegistry,
        pushAll_append]
  | system => rfl

/-! ## The log of a step -/

/-- Everything a step does: the sessions when its departures begin, the registry it leaves,
every push it makes in order, and its departures in order. -/
structure StepLog where
  sessions : List Session
  registry : Registry
  sends : List (PeerId × Outbound)
  departures : List Departure

/-- The log of a step that does nothing. -/
def StepLog.idle (r : Registry) : StepLog :=
  ⟨r.active, r, [], []⟩

/-- The log of a step whose handling left `registry` after the pushes `sends`, with the
departure `d?`, followed by the cascade of the connections those pushes failed for. -/
def StepLog.cascading (acc : PeerId → Bool) (now : UInt64) (sessions : List Session)
    (registry : Registry) (sends : List (PeerId × Outbound)) (d? : Option Departure) : StepLog :=
  let c := cascade acc registry (failedOf acc sends).reverse
  ⟨sessions, c.2, sends ++ popSends now c.1, d?.toList ++ Room.departures c.1⟩

/-- The log of a message from a connection: nothing from a closed connection, else its handling
and the cascade after it. The departures begin from the sessions before a LOGOUT, and from the
sessions after any other handling. -/
def messageLog (room : Room) (id : PeerId) (msg : Message) (now : UInt64) : StepLog :=
  if room.registry.isClosed id then .idle room.registry
  else
    match room.handled id msg now with
    | none => .idle room.registry
    | some (registry, sends, d?) =>
      .cascading room.accepts now (if d?.isSome then room.registry.active else registry.active)
        registry sends d?

/-- The departure of a connection that goes away, when it had a session, with the registry
after it. -/
def leaving (room : Room) (id : PeerId) (now : UInt64) :
    Registry × List (PeerId × Outbound) × Option Departure :=
  match room.registry.departure? id with
  | none => (room.registry, [], none)
  | some (d, registry) => (registry, d.sends now, some d)

/-- The log of a step. A connection that goes away departs when it had a session, is asked to
close, and has its closed mark lifted at the end. -/
def stepLog (room : Room) : Step → StepLog
  | .message id msg now => room.messageLog id msg now
  | .text id line now =>
    match Line.decode line with
    | some msg => room.messageLog id msg now
    | none => .idle room.registry
  | .disconnect id now =>
    let log := StepLog.cascading room.accepts now room.registry.active (room.leaving id now).1
      ((room.leaving id now).2.1 ++ [(id, .close)]) (room.leaving id now).2.2
    { log with registry := log.registry.release id }

theorem cascading_eq (room : Room) (now : UInt64) (sessions : List Session) (registry : Registry)
    (sends : List (PeerId × Outbound)) (d? : Option Departure) :
    ({ room.pushAll sends with registry } : Room).evict (failedOf room.accepts sends).reverse now =
      { room.pushAll (StepLog.cascading room.accepts now sessions registry sends d?).sends with
        registry := (StepLog.cascading room.accepts now sessions registry sends d?).registry } := by
  rw [evict_eq]
  simp [StepLog.cascading, pushAll_append, pushAll_setRegistry]

theorem messageLog_eq (room : Room) (id : PeerId) (msg : Message) (now : UInt64) :
    room.handleAt id msg now =
      { room.pushAll (room.messageLog id msg now).sends with
        registry := (room.messageLog id msg now).registry } := by
  rw [handleAt_eq, messageLog]
  split
  · exact (setRegistry_pushAll room []).symm
  · rw [handler_eq]
    cases room.handled id msg now with
    | none =>
      simp only [List.reverse_nil]
      rw [evict]
      exact (setRegistry_pushAll room []).symm
    | some p =>
      obtain ⟨registry, sends, d?⟩ := p
      exact cascading_eq room now _ registry sends d?

/-- **A step is its log.** The room after a step is the log's registry with the log's pushes
applied, in order. -/
theorem step_eq (room : Room) (st : Step) :
    room.step st = { room.pushAll (room.stepLog st).sends with registry := (room.stepLog st).registry } := by
  cases st with
  | message id msg now => exact messageLog_eq room id msg now
  | text id line now =>
    simp only [step, stepLog, handleText]
    cases Line.decode line with
    | some msg => exact messageLog_eq room id msg now
    | none => exact (setRegistry_pushAll room []).symm
  | disconnect id now =>
    simp only [step, stepLog, disconnect, logout_eq, leaving]
    cases room.registry.departure? id with
    | none =>
      have hclose : room.close id = { room.pushAll ([] ++ [(id, .close)]) with registry := room.registry } := by
        rw [List.nil_append, setRegistry_pushAll, close_eq]
      have hfailed : failedOf room.accepts ([] ++ [(id, .close)]) = [] := by
        simp [failedOf, refused]
      simp only [Option.map_none]
      rw [hclose, ← hfailed, cascading_eq room now room.registry.active room.registry _ none]
    | some p =>
      obtain ⟨d, registry⟩ := p
      have hclose : ({ room.pushAll (d.sends now) with registry } : Room).close id =
          { room.pushAll (d.sends now ++ [(id, .close)]) with registry } := by
        rw [close_eq, pushAll_setRegistry, pushAll_append]
      have hfailed : refused room.accepts (d.sends now) =
          failedOf room.accepts (d.sends now ++ [(id, .close)]) := by
        rw [failedOf_departure, refused_sends]
      simp only [Option.map_some]
      rw [hclose, hfailed, cascading_eq room now room.registry.active registry _ (some d)]

end ChatHub.Room
