import ChatHub.Room.Router
/-!
# Scripts against a room

A script is a list of actions on one fresh room: connections open and go, messages and lines
arrive, receivers drop away, and the registry is asked or told things directly. After each
action the script takes every connection's queued items and records what the room looks like,
so a run can be compared with another run action by action.
-/
namespace ChatHub.Room

/-- One action of a script. Connections are named by their number. -/
inductive Action where
  | connect (addr : String) (terminal : Terminal)
  | message (client : PeerId) (msg : Message) (now : UInt64)
  | text (client : PeerId) (line : String) (now : UInt64)
  | disconnect (client : PeerId) (now : UInt64)
  /-- The receiving end of a connection goes away; later pushes to it fail. -/
  | drop (client : PeerId)
  | isClosed (client : PeerId)
  | registryLogin (client : PeerId) (msg : Message)
  | registryLogout (client : PeerId)
  | registryRelease (client : PeerId)
  | registryRecordFlower (client : PeerId) (time : UInt64)
  | registryFlowerAllowed (client : PeerId) (time : UInt64)
  | registryNickname (client : PeerId)
  | registryLastFlower (client : PeerId)
  deriving Repr

/-- The connection an action is about, if any. -/
def Action.client? : Action → Option PeerId
  | .connect .. => none
  | .message c .. | .text c .. | .disconnect c .. | .drop c | .isClosed c
  | .registryLogin c .. | .registryLogout c | .registryRelease c
  | .registryRecordFlower c .. | .registryFlowerAllowed c .. | .registryNickname c
  | .registryLastFlower c => some c

/-- What an action answers. -/
inductive Reply where
  | nothing
  | number (n : Nat)
  | flag (b : Bool)
  | name (s : String)
  deriving DecidableEq, Repr

/-- What the room looks like after an action. -/
structure Snapshot where
  reply : Reply
  /-- Per connection: the items it was given during the action, or none once its receiving end
  is gone. -/
  outbound : List (Option (List Outbound))
  online : Nat
  sessions : List Session
  closed : List PeerId

/-- Performs one action. -/
def perform (room : Room) : Action → Reply × Room
  | .connect addr terminal =>
    let (id, room) := room.connect addr terminal
    (.number id, room)
  | .message c msg now => (.nothing, room.handleAt c msg now)
  | .text c line now => (.nothing, room.handleText c line now)
  | .disconnect c now => (.nothing, room.disconnect c now)
  | .drop c =>
    (.nothing, { room with peers := room.peers.modify c fun p => { p with accepting := false } })
  | .isClosed c => (.flag (room.registry.isClosed c), room)
  | .registryLogin c msg =>
    let own := (room.peer? c).map (·.terminal) |>.getD .console
    let addr := (room.peer? c).map (·.addr) |>.getD defaultAddr
    match room.registry.onLogin c addr own msg with
    | some (count, registry) => (.number count, { room with registry })
    | none => (.nothing, room)
  | .registryLogout c =>
    match room.registry.onLogout c with
    | some (nickname, registry) => (.name nickname, { room with registry })
    | none => (.nothing, room)
  | .registryRelease c => (.nothing, { room with registry := room.registry.release c })
  | .registryRecordFlower c time =>
    (.nothing, { room with registry := room.registry.recordFlower c time })
  | .registryFlowerAllowed c time => (.flag (room.registry.flowerAllowed c time), room)
  | .registryNickname c =>
    match room.registry.nickname? c with
    | some n => (.name n, room)
    | none => (.nothing, room)
  | .registryLastFlower c =>
    match room.registry.lastFlower? c with
    | some t => (.number t.toNat, room)
    | none => (.nothing, room)

/-- Takes every connection's queued items: none for a connection whose receiving end is gone. -/
def takeOutbound (room : Room) : List (Option (List Outbound)) × Room :=
  let taken := room.peers.toList.map fun p => if p.accepting then some p.queue else none
  (taken, { room with peers := room.peers.map fun p => { p with queue := [] } })

/-- Whether a connection with this number was ever opened. -/
def knows (room : Room) (c : PeerId) : Bool :=
  c < room.peers.size

/-- Performs an action and records the room after it. -/
def observe (room : Room) (a : Action) : Snapshot × Room :=
  let (reply, room) := room.perform a
  let (outbound, room) := room.takeOutbound
  ({ reply, outbound, online := room.registry.onlineCount, sessions := room.registry.active,
     closed := room.registry.closedSorted }, room)

end ChatHub.Room
