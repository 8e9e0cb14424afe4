import ChatHub.Room.Router
import ChatHub.Proofs.RegistryRun
/-!
# ChatHub — pushes, deliveries and departures as lists

A room changes in two independent ways during a step: its registry, through logins, logouts and
flower records, and its connections, through pushes. A push never reads or writes the registry,
and whether it is taken depends only on the connection, which no push changes. So everything the
room pushes during a step can be written down as one list of (connection, item) pairs, and the
connections afterwards are those pushes applied in order (`pushAll`).

* **`deliverAll_eq`** — a delivery to sessions is the list of its pushes, one per session in
  order, and it reports as failed exactly the sessions whose connection does not take items.
* **`logout_eq`** — a logout is a `Departure`: the nickname that left and the sessions still
  there, each of which is sent the notice of that departure.
-/

namespace ChatHub.Room

/-! ## Whether a connection takes items -/

/-- Whether a push to a connection is taken: the connection exists and its serving side still
takes items. -/
def accepts (room : Room) (id : PeerId) : Bool :=
  (room.peer? id).any (·.accepting)

/-- The room after a list of pushes, in order. -/
def pushAll (room : Room) (sends : List (PeerId × Outbound)) : Room :=
  sends.foldl (fun r s => (r.push s.1 s.2).2) room

/-- The connections of a list of pushes that did not take them, in order. -/
def refused (acc : PeerId → Bool) (sends : List (PeerId × Outbound)) : List PeerId :=
  (sends.filter fun s => !acc s.1).map (·.1)

theorem Peer.push_fst (p : Peer) (item : Outbound) : (p.push item).1 = p.accepting := by
  unfold Peer.push
  split <;> simp_all

theorem Peer.push_accepting (p : Peer) (item : Outbound) :
    (p.push item).2.accepting = p.accepting := by
  unfold Peer.push
  split <;> rfl

theorem push_fst (room : Room) (id : PeerId) (item : Outbound) :
    (room.push id item).1 = room.accepts id := by
  unfold push accepts peer?
  split
  · next p hp => simp only [hp, Option.any_some, Peer.push_fst]
  · next hp => simp [hp]

theorem accepts_push (room : Room) (id : PeerId) (item : Outbound) :
    (room.push id item).2.accepts = room.accepts := by
  funext y
  unfold push
  split
  · next p hp =>
    simp only [accepts, peer?, Array.getElem?_setIfInBounds]
    split
    · next hy =>
      subst hy
      obtain ⟨hlt, hpe⟩ := Array.getElem?_eq_some_iff.1 hp
      simp [hlt, hpe, Peer.push_accepting]
    · rfl
  · rfl

@[simp] theorem pushAll_nil (room : Room) : room.pushAll [] = room := rfl

@[simp] theorem pushAll_cons (room : Room) (s : PeerId × Outbound) (sends : List (PeerId × Outbound)) :
    room.pushAll (s :: sends) = (room.push s.1 s.2).2.pushAll sends := rfl

theorem pushAll_append (room : Room) (a b : List (PeerId × Outbound)) :
    room.pushAll (a ++ b) = (room.pushAll a).pushAll b := by
  simp [pushAll, List.foldl_append]

@[simp] theorem pushAll_registry (room : Room) (sends : List (PeerId × Outbound)) :
    (room.pushAll sends).registry = room.registry := by
  induction sends generalizing room with
  | nil => rfl
  | cons s sends ih => rw [pushAll_cons, ih, push_registry]

@[simp] theorem accepts_pushAll (room : Room) (sends : List (PeerId × Outbound)) :
    (room.pushAll sends).accepts = room.accepts := by
  induction sends generalizing room with
  | nil => rfl
  | cons s sends ih => rw [pushAll_cons, ih, accepts_push]

/-- Pushes and registry changes commute: a push reads only the connections. -/
theorem push_setRegistry (room : Room) (registry : Registry) (id : PeerId) (item : Outbound) :
    ({ room with registry } : Room).push id item =
      ((room.push id item).1, { (room.push id item).2 with registry }) := by
  cases hp : room.peers[id]? <;> simp [push, hp]

theorem pushAll_setRegistry (room : Room) (registry : Registry) (sends : List (PeerId × Outbound)) :
    ({ room with registry } : Room).pushAll sends = { room.pushAll sends with registry } := by
  induction sends generalizing room with
  | nil => rfl
  | cons s sends ih => rw [pushAll_cons, pushAll_cons, push_setRegistry, ih]

theorem close_eq (room : Room) (id : PeerId) : room.close id = room.pushAll [(id, .close)] := rfl

@[simp] theorem accepts_setRegistry (room : Room) (registry : Registry) :
    ({ room with registry } : Room).accepts = room.accepts := rfl

/-! ## Deliveries -/

/-- The pushes of a delivery: one item to each session, in order. -/
def deliveries (item : Session → Outbound) (ss : List Session) : List (PeerId × Outbound) :=
  ss.map fun s => (s.peer, item s)

theorem refused_deliveries (acc : PeerId → Bool) (item : Session → Outbound) (ss : List Session) :
    refused acc (deliveries item ss) = (ss.filter fun s => !acc s.peer).map (·.peer) := by
  simp [refused, deliveries, List.filter_map, Function.comp_def]

/-- **A delivery is its list of pushes.** Delivering to sessions pushes one item to each in
order, and reports as failed exactly the sessions whose connection does not take items. -/
theorem deliverAll_eq (room : Room) (item : Session → Outbound) (ss : List Session) :
    room.deliverAll item ss =
      (refused room.accepts (deliveries item ss), room.pushAll (deliveries item ss)) := by
  induction ss generalizing room with
  | nil => rfl
  | cons s rest ih =>
    have hrest := ih (room.push s.peer (item s)).2
    rw [accepts_push] at hrest
    simp only [deliverAll, hrest, push_fst, deliveries, List.map_cons, pushAll_cons, refused,
      List.filter_cons]
    cases room.accepts s.peer <;> rfl

/-! ## Departures -/

/-- A connection leaving the room: its number, the nickname it had, and the sessions still
there after it left, in order. -/
structure Departure where
  peer : PeerId
  nickname : String
  rest : List Session

namespace Departure

/-- The notice of a departure: from the hub, "<nickname> left the room...", with the number of
sessions still there. -/
def notice (d : Departure) (now : UInt64) : Message :=
  Message.system (online d.rest.length) (d.nickname ++ " left the room...") now

/-- The pushes of a departure: its notice to each session still there, the message itself to a
console session and its line to the others. -/
def sends (d : Departure) (now : UInt64) : List (PeerId × Outbound) :=
  deliveries (fun s => itemFor (d.notice now) (s.terminal == .console)) d.rest

end Departure

/-- The departure a logout makes at the registry, and the registry after it. -/
def Registry.departure? (r : Registry) (id : PeerId) : Option (Departure × Registry) :=
  (r.onLogout id).map fun (nickname, r') => (⟨id, nickname, r'.active⟩, r')

/-- **A logout is a departure.** It changes the registry as the registry's logout does, and
pushes the departure's notices. -/
theorem logout_eq (room : Room) (id : PeerId) (now : UInt64) :
    room.logout id now = (room.registry.departure? id).map fun (d, registry) =>
      (refused room.accepts (d.sends now), { room.pushAll (d.sends now) with registry }) := by
  unfold logout Registry.departure?
  cases room.registry.onLogout id with
  | none => rfl
  | some p =>
    obtain ⟨nickname, registry⟩ := p
    simp only [Option.map_some, deliverAll_eq, accepts_setRegistry, pushAll_setRegistry,
      Departure.sends, Departure.notice, Registry.onlineCount]

end ChatHub.Room
