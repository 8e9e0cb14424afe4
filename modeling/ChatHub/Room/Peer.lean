import ChatHub.Message
/-!
# Connections as the room sees them

The room never writes to a socket. It pushes items onto a connection's outbound queue, and
whatever serves the connection takes them from there. A push fails once the serving side has
gone; the room then treats the connection as unreachable.
-/
namespace ChatHub.Room

/-- Connections are numbered in the order they appear. -/
abbrev PeerId := Nat

/-- The address reported for a connection that does not name its own. -/
def defaultAddr : String := "127.0.0.1:40000"

/-- An item pushed to a connection. -/
inductive Outbound where
  /-- The message itself, for a side that speaks the binary record. -/
  | message (m : Message)
  /-- A text line. -/
  | text (line : String)
  /-- A request to close the connection. -/
  | close
  deriving DecidableEq, Repr

/-- A connection: where it comes from, the terminal it was opened for, whether its serving side
still takes items, and the items pushed and not yet taken, oldest first. -/
structure Peer where
  addr : String := defaultAddr
  terminal : Terminal
  accepting : Bool := true
  queue : List Outbound := []
  deriving DecidableEq, Repr

namespace Peer

/-- Pushes an item: it joins the queue when the serving side still takes items, and the push
fails otherwise. -/
def push (p : Peer) (item : Outbound) : Bool × Peer :=
  if p.accepting then (true, { p with queue := p.queue ++ [item] }) else (false, p)

/-- The queued items, taken away. -/
def drain (p : Peer) : List Outbound × Peer :=
  (p.queue, { p with queue := [] })

end Peer

end ChatHub.Room
