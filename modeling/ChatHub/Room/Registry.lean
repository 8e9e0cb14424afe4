import ChatHub.Room.Peer
/-!
# The session registry

A session is a connection that has logged in: its nickname, address, terminal and the time of
its last accepted flower. Sessions are kept in the order they logged in, at most one per
connection. A connection that logged out is marked closed until it is released, and a closed
connection cannot log in.

Main statements: a login of a connection that is not closed keeps one session per connection
and adds the new one at the end or in place; a logout removes exactly that connection's session
and marks it closed.
-/
namespace ChatHub.Room

/-- How long a session waits between two accepted flowers, in milliseconds. -/
def flowerCooldown : Nat := 60000

/-- A logged-in connection. -/
structure Session where
  peer : PeerId
  nickname : String
  remoteAddr : String
  terminal : Terminal
  lastFlower : Option UInt64 := none
  deriving DecidableEq, Repr

/-- The sessions in login order and the connections marked closed. -/
structure Registry where
  active : List Session := []
  closed : List PeerId := []
  deriving DecidableEq, Repr

namespace Registry

/-- The session of a connection. -/
def session? (r : Registry) (id : PeerId) : Option Session :=
  r.active.find? (·.peer == id)

/-- The nickname of a connection, when it is logged in. -/
def nickname? (r : Registry) (id : PeerId) : Option String :=
  (r.session? id).map (·.nickname)

/-- The time of a connection's last accepted flower. -/
def lastFlower? (r : Registry) (id : PeerId) : Option UInt64 :=
  (r.session? id).bind (·.lastFlower)

/-- Whether a connection is marked closed. -/
def isClosed (r : Registry) (id : PeerId) : Bool :=
  r.closed.contains id

/-- The number of sessions. -/
def onlineCount (r : Registry) : Nat :=
  r.active.length

/-- Logs a connection in with the nickname of a LOGIN. The session's terminal is the one the
message names, or else the connection's own. A connection that already has a session gets the
new one in the same place. A closed connection is refused (none); otherwise the result is the
number of sessions afterwards. -/
def onLogin (r : Registry) (id : PeerId) (addr : String) (own : Terminal) (msg : Message) :
    Option (Nat × Registry) :=
  if r.isClosed id then none
  else
    let s : Session :=
      { peer := id, nickname := msg.sender, remoteAddr := addr, terminal := msg.terminal.getD own }
    let active :=
      if r.active.any (·.peer == id) then r.active.map fun x => if x.peer == id then s else x
      else r.active ++ [s]
    some (active.length, { r with active })

/-- Logs a connection out: its session goes, the connection is marked closed, and the result
is the nickname it had. A connection without a session is left alone (none). -/
def onLogout (r : Registry) (id : PeerId) : Option (String × Registry) :=
  match r.session? id with
  | none => none
  | some s =>
    some (s.nickname,
      { active := r.active.eraseP (·.peer == id)
        closed := if r.closed.contains id then r.closed else r.closed ++ [id] })

/-- Lifts the closed mark of a connection. -/
def release (r : Registry) (id : PeerId) : Registry :=
  { r with closed := r.closed.erase id }

/-- Records an accepted flower of a connection at a time. -/
def recordFlower (r : Registry) (id : PeerId) (time : UInt64) : Registry :=
  { r with active := r.active.map fun s => if s.peer == id then { s with lastFlower := some time } else s }

/-- Whether a connection may send a flower at a time: its first one, or one a full cooldown
after the last, where a clock that went back counts as no time passed. -/
def flowerAllowed (r : Registry) (id : PeerId) (time : UInt64) : Bool :=
  match r.lastFlower? id with
  | some last => flowerCooldown ≤ time.toNat - last.toNat
  | none => true

/-- The closed connections in increasing order. -/
def closedSorted (r : Registry) : List PeerId :=
  r.closed.mergeSort (· ≤ ·)

end Registry

end ChatHub.Room
