import ChatHub.Room.Router
import ChatHub.Wire.Decoder
import ChatHub.Web.Library
/-!
# The WebSocket gateway

The gateway puts web clients into a room next to connections that live in memory. It runs over
a WebSocket library `L`, which makes the handshake, reads and writes the frames and keeps the
closing handshake. Each web client has a handler on the server side, which goes through three
phases:

* **handshaking**: the library reads the client's bytes until the upgrade request is complete;
  a refused request ends the handler with the refusal's text;
* **running**: the library reads the client's bytes into messages, and every message that the
  bytes at hand complete is handled before anything else runs. A text message is a line of the
  text protocol, a binary message a frame of the binary one, read by the connection's own
  decoder. A ping is answered at once as the library answers it, a close frame ends the handler,
  and so do a protocol violation, the end of the client's bytes, and a LOGOUT;
* **ended**: nothing more is read or written.

Next to the handler runs its writer, which takes the items the room pushes and sends them as
text frames while the library can send. The writer stops at a close request, at a failed write
or when the library can no longer send, and on stopping it closes its side as the library does.
A handler whose writer has stopped ends too.

When a handler ends, its connection is disconnected from the room, which logs its session out
and tells the others. Everything runs to completion inside a step, in a fixed order: the
action, with all the messages a handler reads from it, then the writers, then the handlers
whose writers have stopped, lowest number first. Items a writer finds queued after its client
has closed cannot be sent, so it only answers the close.
-/
namespace ChatHub.Web

open Room

/-- The error of a write to a client that no longer reads. -/
def brokenPipe : String := "IO error: Broken pipe (os error 32)"

/-- Who is on the other end of a web connection. -/
inductive ClientKind where
  /-- A WebSocket library: it makes the upgrade itself and reports whole frames. -/
  | library
  /-- A plain byte stream: it writes whatever bytes it is given and reports the bytes it gets. -/
  | raw
  deriving DecidableEq, Repr

variable (L : WsLibrary)

/-- The phase of a handler. -/
inductive Handler where
  | handshaking (u : L.Upgrade)
  | running (s : L.Stream) (closing : Closing) (decoder : Wire.Decoder)
  | ended

/-- What a client reports having got. -/
inductive Delivery where
  /-- An item a connection in memory took from its queue. -/
  | item (o : Outbound)
  /-- A text frame, as a library reports it. -/
  | text (line : String)
  /-- A binary frame, as a library reports it. -/
  | binary (data : List UInt8)
  /-- Bytes, as a raw client reports them. -/
  | bytes (data : List UInt8)
  /-- The end of the connection. -/
  | closed
  deriving DecidableEq, Repr

/-- Joins neighbouring runs of bytes into one delivery. -/
def joinBytes (ds : List Delivery) : List Delivery :=
  ds.foldr (fun d acc =>
    match d, acc with
    | .bytes a, .bytes b :: rest => .bytes (a ++ b) :: rest
    | d, acc => d :: acc) []

/-- A web client and its handler: whether the client still reads and writes, whether it has seen
the end of the connection, and what it got during the current step. -/
structure Link where
  kind : ClientKind
  handler : Handler L
  reads : Bool := true
  writes : Bool := true
  sawEnd : Bool := false
  inbox : List Delivery := []

variable {L}

namespace Link

/-- The client sees the end of the connection; it reports it once. -/
def seeEnd (l : Link L) : Link L :=
  if l.sawEnd then l else { l with sawEnd := true, inbox := l.inbox ++ [.closed] }

/-- The client gets the upgrade response; only a raw client reports it. None when the client
no longer reads. -/
def hearResponse (l : Link L) (response : List UInt8) : Option (Link L) :=
  if !l.reads then none
  else
    match l.kind with
    | .raw => some { l with inbox := l.inbox ++ [.bytes response] }
    | .library => some l

/-- The client gets a frame: a raw client reports its bytes, a client of the library what the
library makes of it. None when the client no longer reads. -/
def hearFrame (l : Link L) (f : ServerFrame) : Option (Link L) :=
  if !l.reads then none
  else
    match l.kind with
    | .raw => some { l with inbox := l.inbox ++ [.bytes (L.serverBytes f)] }
    | .library =>
      match L.heard f with
      | .line s => some { l with inbox := l.inbox ++ [.text s] }
      | .ended => some l.seeEnd
      | .nothing => some l

/-- The reading state of a running handler. -/
def running? (l : Link L) : Option (L.Stream × Closing × Wire.Decoder) :=
  match l.handler with
  | .running s closing decoder => some (s, closing, decoder)
  | _ => none

/-- Whether the handler has ended. -/
def isEnded (l : Link L) : Bool :=
  match l.handler with
  | .ended => true
  | _ => false

end Link

/-- The writer closes its side as the library does, and the client gets the frame the library
sends, if any. A failed write changes nothing. -/
def Link.closeSide (l : Link L) (c : Closing) : Link L × Closing :=
  match L.close c with
  | (some f, c') => ((l.hearFrame f).getD l, c')
  | (none, c') => (l, c')

/-- The line an item carries; a close request carries none. -/
def itemLine? : Outbound → Option String
  | .message m => some (Line.encode m)
  | .text line => some line
  | .close => none

/-- The writer stops and closes its side; the flag says the writer is gone. -/
def Link.stopWriting (l : Link L) (c : Closing) : Link L × Closing × Bool :=
  ((l.closeSide c).1, (l.closeSide c).2, false)

/-- The writer sends items as text frames until one is a close request, a write fails, or the
library can no longer send; it then closes its side. The flag says whether the writer is still
there. -/
def writeItems : Link L → Closing → List Outbound → Link L × Closing × Bool
  | l, c, [] => (l, c, true)
  | l, c, item :: rest =>
    match itemLine? item with
    | some line =>
      if L.sends c then
        match l.hearFrame (.text line) with
        | some l => writeItems l c rest
        | none => l.stopWriting c
      else l.stopWriting c
    | none => l.stopWriting c

variable (L)

/-- A client of the gateway: a connection in memory, or a web client. -/
inductive Client where
  | direct
  | web (link : Link L)

/-- The room, the clients numbered as the room numbers their connections, whether shutdown has
been signalled, and the handlers that ended during the current step with their results. -/
structure Gateway where
  room : Room := {}
  clients : Array (Client L) := #[]
  stopping : Bool := false
  ends : List (Nat × Except String Unit) := []

variable {L}

/-- A client as it is created. -/
inductive Creation where
  /-- A connection in memory, for a terminal. -/
  | direct (terminal : Terminal)
  /-- A library client, whose upgrade succeeds at once. -/
  | library
  /-- A raw client, whose handler waits for the upgrade request. -/
  | raw
  deriving DecidableEq, Repr

/-- One action of a session. -/
inductive Action where
  | create (c : Creation)
  /-- A library client sends a frame. -/
  | send (client : Nat) (f : ClientFrame)
  /-- A library client sends a message as a binary frame of the binary protocol. -/
  | sendMessage (client : Nat) (m : Message)
  /-- A raw client writes bytes. -/
  | write (client : Nat) (bytes : List UInt8)
  /-- A raw client shuts its writing side. -/
  | finishWriting (client : Nat)
  /-- A web client stops reading. -/
  | stopReading (client : Nat)
  /-- A message from a connection in memory. -/
  | message (client : Nat) (m : Message)
  /-- A text line from a connection in memory. -/
  | text (client : Nat) (line : String)
  /-- A connection in memory goes away. -/
  | disconnect (client : Nat)
  /-- Every handler is told to stop. -/
  | shutdown
  deriving Repr

/-- Why an action cannot be carried out: a message too large for a frame of the binary
protocol cannot be sent. -/
def Action.fault? : Action → Option Fault
  | .sendMessage _ m =>
    match Wire.Frame.encode m with
    | .ok _ => none
    | .error f => some f
  | _ => none

namespace Gateway

/-- The web client with a number. -/
def link? (g : Gateway L) (i : Nat) : Option (Link L) :=
  match g.clients[i]? with
  | some (.web l) => some l
  | _ => none

/-- The kind of a client: none for a connection in memory. -/
def kind? (g : Gateway L) (i : Nat) : Option ClientKind :=
  (g.link? i).map (·.kind)

/-- Whether a client with this number exists. -/
def knows (g : Gateway L) (i : Nat) : Bool :=
  i < g.clients.size

/-- Replaces a web client. -/
def setLink (g : Gateway L) (i : Nat) (l : Link L) : Gateway L :=
  { g with clients := g.clients.modify i fun _ => .web l }

/-- Replaces a web client's handler. -/
def setHandler (g : Gateway L) (i : Nat) (h : Handler L) : Gateway L :=
  match g.link? i with
  | some l => g.setLink i { l with handler := h }
  | none => g

/-- Changes the room's connection with a number. -/
def modifyPeer (g : Gateway L) (i : Nat) (f : Peer → Peer) : Gateway L :=
  { g with room := { g.room with peers := g.room.peers.modify i f } }

/-- Whether a client's handler runs while its writer has stopped. -/
def writerGone (g : Gateway L) (i : Nat) : Bool :=
  match g.link? i, g.room.peer? i with
  | some l, some p => (l.running?).isSome && !p.accepting
  | _, _ => false

/-- Whether a client's handler is running. -/
def isRunning (g : Gateway L) (i : Nat) : Bool :=
  match g.link? i with
  | some l => (l.running?).isSome
  | none => false

/-- Runs one writer over the items queued for its connection. -/
def flushOne (g : Gateway L) (i : Nat) : Gateway L :=
  match g.link? i, g.room.peer? i with
  | some l, some p =>
    match l.running? with
    | some (s, closing, decoder) =>
      if p.accepting then
        let (l, closing, alive) := writeItems l closing p.queue
        let g := g.setLink i { l with handler := .running s closing decoder }
        g.modifyPeer i fun p => { p with queue := [], accepting := alive }
      else g
    | none => g
  | _, _ => g

/-- Runs every writer, lowest number first. -/
def flush (g : Gateway L) : Gateway L :=
  (List.range g.clients.size).foldl flushOne g

/-- Ends a handler with a result. A running one disconnects its connection from the room first
and lets the writers run, so its own writer sends its last frames; the client then sees the
connection end. -/
def finish (g : Gateway L) (i : Nat) (now : UInt64) (result : Except String Unit) : Gateway L :=
  match g.link? i with
  | none => g
  | some l =>
    let g :=
      if (l.running?).isSome then ({ g with room := g.room.disconnect i now }).flush else g
    let g := g.modifyPeer i fun p => { p with queue := [], accepting := false }
    match g.link? i with
    | some l => { g.setLink i { l with handler := .ended }.seeEnd with ends := g.ends ++ [(i, result)] }
    | none => g

/-- Ends, lowest number first, the running handlers whose writers have stopped; each ending may
stop further writers, and the fuel bounds the rounds. -/
def settle (now : UInt64) : Nat → Gateway L → Gateway L
  | 0, g => g
  | fuel + 1, g =>
    match (List.range g.clients.size).find? g.writerGone with
    | some i => settle now fuel (g.finish i now (.ok ()))
    | none => g

/-- After a handler has handled a message, it ends when the message closed its connection. -/
def afterMessage (g : Gateway L) (i : Nat) (now : UInt64) : Gateway L :=
  if g.room.registry.isClosed i then g.finish i now (.ok ()) else g

/-- A room action by a connection in memory, followed by the writers and the handlers whose
writers have stopped. -/
def afterRoom (g : Gateway L) (room : Room) (now : UInt64) : Gateway L :=
  let g := ({ g with room } : Gateway L).flush
  g.settle now (g.clients.size + 1)

/-- A running handler handles a message it has read; `s` is its reader after it. -/
def handleIncoming (g : Gateway L) (i : Nat) (now : UInt64) (m : Incoming) (s : L.Stream)
    (closing : Closing) (decoder : Wire.Decoder) : Gateway L :=
  let g := g.setHandler i (.running s closing decoder)
  match m with
  | .text line => ({ g with room := g.room.handleText i line now } : Gateway L).afterMessage i now
  | .binary data =>
    let (msg?, decoder) := decoder.readFrame data
    let g := g.setHandler i (.running s closing decoder)
    match msg? with
    | some msg => ({ g with room := g.room.handleAt i msg now } : Gateway L).afterMessage i now
    | none => g.afterMessage i now
  | .ping data =>
    match L.answer closing data, g.link? i with
    | some f, some l =>
      match l.hearFrame f with
      | some l => (g.setLink i l).afterMessage i now
      | none => g.finish i now (.ok ())
    | _, _ => g.afterMessage i now
  | .pong _ => g.afterMessage i now
  | .close payload =>
    let closing := match closing with
      | .active => .closedByPeer (L.closeReply payload)
      | _ => .terminated
    (g.setHandler i (.running s closing decoder)).finish i now (.ok ())

/-- A running handler handles the messages it has read, in order, until one of them ends it;
`s` is its reader after them. -/
def handleAll (now : UInt64) (i : Nat) (s : L.Stream) : List Incoming → Gateway L → Gateway L
  | [], g => g
  | m :: ms, g =>
    match (g.link? i).bind Link.running? with
    | some (_, closing, decoder) => handleAll now i s ms (g.handleIncoming i now m s closing decoder)
    | none => g

/-- After its messages, a handler whose reader found the protocol broken ends, unless one of the
messages ended it. -/
def afterReading (g : Gateway L) (i : Nat) (now : UInt64) (broken : Bool) : Gateway L :=
  if broken && g.isRunning i then g.finish i now (.ok ()) else g

/-- Bytes reach a running handler. It handles every message they complete before anything
else runs; then the writers run, and the handlers whose writers have stopped end. -/
def feedFrames (g : Gateway L) (i : Nat) (now : UInt64) (bs : List UInt8) : Gateway L :=
  match (g.link? i).bind Link.running? with
  | some (s, closing, decoder) =>
    let reading := L.read s bs
    let s := reading.next.getD s
    let g := handleAll now i s reading.messages (g.setHandler i (.running s closing decoder))
    (g.afterReading i now reading.next.isNone).flush.settle now (g.clients.size + 1)
  | none => g

/-- A handshaking handler goes on as its handshake stands. An accepted upgrade is answered, and
the bytes after the request are the first frames; the handler stops at once when shutdown has
been signalled. -/
def handshake (g : Gateway L) (i : Nat) (now : UInt64) : Upgraded L.Upgrade → Gateway L
  | .waiting u => g.setHandler i (.handshaking u)
  | .refused e => g.finish i now (.error e)
  | .accepted response rest =>
    match (g.link? i).bind (·.hearResponse response) with
    | none => g.finish i now (.error brokenPipe)
    | some l =>
      let g := g.setLink i { l with handler := .running L.stream .active {} }
      if g.stopping then g.finish i now (.ok ()) else g.feedFrames i now rest

/-- Bytes from a web client reach its handler. -/
def receive (g : Gateway L) (i : Nat) (now : UInt64) (bs : List UInt8) : Gateway L :=
  match g.link? i with
  | some l =>
    match l.handler with
    | .handshaking u => g.handshake i now (L.upgrade u bs)
    | .running .. => g.feedFrames i now bs
    | .ended => g
  | none => g

/-- The client's bytes end. A handshake is then unfinished; a running handler finds the
connection gone. -/
def receiveEnd (g : Gateway L) (i : Nat) (now : UInt64) : Gateway L :=
  match g.link? i with
  | some l =>
    match l.handler with
    | .handshaking _ => g.finish i now (.error L.unfinished)
    | .running s _ decoder =>
      (g.setHandler i (.running s .terminated decoder)).finish i now (.ok ())
    | .ended => g
  | none => g

/-- A web client writes bytes, when it still writes and its handler is there to read them. -/
def clientWrites (g : Gateway L) (i : Nat) (now : UInt64) (bs : List UInt8) : Gateway L :=
  match g.link? i with
  | some l => if l.writes && !l.isEnded then g.receive i now bs else g
  | none => g

/-- Creates a client. A library client's handler is running at once, and ends at once when
shutdown has been signalled. -/
def create (g : Gateway L) (now : UInt64) (c : Creation) : Nat × Gateway L :=
  let terminal := match c with
    | .direct t => t
    | _ => .webSocket
  let (i, room) := g.room.connect defaultAddr terminal
  let client : Client L := match c with
    | .direct _ => .direct
    | .library => .web { kind := .library, handler := .running L.stream .active {} }
    | .raw => .web { kind := .raw, handler := .handshaking L.upgradeStart }
  let g := { g with room, clients := g.clients.push client }
  if c == .library && g.stopping then (i, g.finish i now (.ok ())) else (i, g)

/-- Performs one action at a time; a creation answers the new client's number. -/
def perform (g : Gateway L) (now : UInt64) : Action → Option Nat × Gateway L
  | .create c =>
    let (i, g) := g.create now c
    (some i, g)
  | .send i f =>
    let g := g.clientWrites i now (L.clientBytes f)
    if f.isClose then
      match g.link? i with
      | some l => (none, g.setLink i { l with writes := false })
      | none => (none, g)
    else (none, g)
  | .sendMessage i m =>
    match Wire.Frame.encode m with
    | .ok bytes => (none, g.clientWrites i now (L.clientBytes (.binary bytes)))
    | .error _ => (none, g)
  | .write i bs => (none, g.clientWrites i now bs)
  | .finishWriting i =>
    match g.link? i with
    | some l =>
      let ending := l.writes && !l.isEnded
      let g := g.setLink i { l with writes := false }
      (none, if ending then g.receiveEnd i now else g)
    | none => (none, g)
  | .stopReading i =>
    match g.link? i with
    | some l =>
      let l := { l with reads := false, writes := l.writes && l.kind == ClientKind.raw }
      (none, g.setLink i l.seeEnd)
    | none => (none, g)
  | .message i m => (none, g.afterRoom (g.room.handleAt i m now) now)
  | .text i line => (none, g.afterRoom (g.room.handleText i line now) now)
  | .disconnect i => (none, g.afterRoom (g.room.disconnect i now) now)
  | .shutdown =>
    let g := { g with stopping := true }
    let g := (List.range g.clients.size).foldl
      (fun g i => if g.isRunning i then g.finish i now (.ok ()) else g) g
    (none, g.settle now (g.clients.size + 1))

/-- What the clients got: a connection in memory its queued items, a web client what it
reported; all of it is taken away. -/
def takeDeliveries (g : Gateway L) : List (List Delivery) × Gateway L :=
  let taken := (List.range g.clients.size).map fun i =>
    match g.clients[i]? with
    | some (.web l) => joinBytes l.inbox
    | _ => ((g.room.peer? i).map (·.queue)).getD [] |>.map .item
  let clients := g.clients.map fun
    | .web l => .web { l with inbox := [] }
    | .direct => .direct
  let peers := (g.room.peers.zip g.clients).map fun (p, c) =>
    match c with
    | .direct => { p with queue := [] }
    | .web _ => p
  (taken, { g with clients, room := { g.room with peers } })

end Gateway

/-- What a step shows: the new client's number, what each client got, the handlers that ended
in order of their numbers, and the online count. -/
structure StepReport where
  created : Option Nat
  received : List (List Delivery)
  ends : List (Nat × Except String Unit)
  online : Nat
  deriving Repr

/-- Performs an action at a time and reports what it showed; an action that cannot be carried
out changes nothing and names its fault. -/
def Gateway.step (g : Gateway L) (now : UInt64) (a : Action) : Except Fault (StepReport × Gateway L) :=
  match a.fault? with
  | some f => .error f
  | none =>
    let (created, g) := ({ g with ends := [] } : Gateway L).perform now a
    let (received, g) := g.takeDeliveries
    let report : StepReport :=
      { created, received, ends := g.ends.mergeSort (fun a b => a.1 ≤ b.1),
        online := g.room.registry.onlineCount }
    .ok (report, { g with ends := [] })

end ChatHub.Web
