import ChatHub.Text.Utf8
import ChatHub.Wire.Bytes
/-!
# The WebSocket library, as a parameter

The gateway does not speak the WebSocket protocol itself: a library makes the opening handshake,
reads the client's frames into messages, answers pings, keeps the closing handshake and writes
the server's frames. `WsLibrary` is that library on one connection: the types of its handshake
and of its reader, and its operations. The gateway is defined over any library, and what the
proofs about it assume is `WsLibrary.Lawful`: a few named laws, each one an observation about a
library that a run could refute. The library the hub is built with is one instance of it.

What both sides share is the protocol's vocabulary: the messages a server reads (`Incoming`),
the frames it writes (`ServerFrame`), the frames a client of the library sends (`ClientFrame`),
and the states of the closing handshake (`Closing`).
-/
namespace ChatHub.Web

/-- A message the server reads from a client. -/
inductive Incoming where
  | text (s : String)
  | binary (data : List UInt8)
  | ping (data : List UInt8)
  | pong (data : List UInt8)
  /-- A close frame, with its payload: nothing, or a code and a reason. -/
  | close (payload : List UInt8)
  deriving DecidableEq, Repr

/-- How far the server's side of a connection is in the closing handshake. -/
inductive Closing where
  /-- Nobody has sent a close frame. -/
  | active
  /-- The client has sent one; the server owes this reply. -/
  | closedByPeer (reply : List UInt8)
  /-- The server has sent one. -/
  | closedByUs
  /-- The connection is gone, or both sides are done. -/
  | terminated
  deriving DecidableEq, Repr

/-- A frame the server sends. -/
inductive ServerFrame where
  | text (line : String)
  | pong (data : List UInt8)
  | close (payload : List UInt8)
  deriving DecidableEq, Repr

/-- A frame a client of the library sends. -/
inductive ClientFrame where
  | text (line : String)
  | binary (data : List UInt8)
  | ping (data : List UInt8)
  | pong (data : List UInt8)
  /-- A close frame, with its payload: nothing, or a code and a reason. -/
  | close (payload : List UInt8)
  deriving DecidableEq, Repr

namespace ClientFrame

/-- The payload of a client frame; a text frame carries its line in UTF-8. -/
def payload : ClientFrame → List UInt8
  | .text line => Text.Utf8.encodeString line
  | .binary data | .ping data | .pong data | .close data => data

/-- The message a client frame carries. -/
def incoming : ClientFrame → Incoming
  | .text line => .text line
  | .binary data => .binary data
  | .ping data => .ping data
  | .pong data => .pong data
  | .close payload => .close payload

/-- Whether a client frame is a close frame. -/
def isClose : ClientFrame → Bool
  | .close _ => true
  | _ => false

/-- Whether the length of a frame's payload can be written in a frame's header, whose longest
length field has eight bytes. -/
def Sendable (f : ClientFrame) : Prop :=
  f.payload.length < Wire.capacity 8

instance (f : ClientFrame) : Decidable f.Sendable :=
  inferInstanceAs (Decidable (_ < _))

end ClientFrame

/-- What reading bytes yields: the messages they complete, in order, and the reader after them;
none when the bytes broke the protocol after those messages. -/
structure Reading (σ : Type) where
  messages : List Incoming
  next : Option σ

/-- A message read before the others. -/
def Reading.cons {σ : Type} (m : Incoming) (r : Reading σ) : Reading σ :=
  { r with messages := m :: r.messages }

/-- Where an opening handshake stands after a read. -/
inductive Upgraded (υ : Type) where
  /-- The request is not complete yet. -/
  | waiting (u : υ)
  /-- The upgrade is refused, with the error's text. -/
  | refused (error : String)
  /-- The upgrade is accepted with this response; the bytes after the request are frames. -/
  | accepted (response : List UInt8) (rest : List UInt8)

/-- What a client of the library makes of a server frame. -/
inductive Heard where
  /-- The line of a text frame. -/
  | line (s : String)
  /-- The end of the connection. -/
  | ended
  /-- Nothing it reports. -/
  | nothing
  deriving DecidableEq, Repr

/-- A WebSocket library on the server's side of one connection. -/
structure WsLibrary where
  /-- An opening handshake in progress. -/
  Upgrade : Type
  /-- The handshake before the client's first byte. -/
  upgradeStart : Upgrade
  /-- Reads bytes of the client's opening handshake. -/
  upgrade : Upgrade → List UInt8 → Upgraded Upgrade
  /-- The error of a handshake whose client stops writing before its request is complete. -/
  unfinished : String
  /-- The reader of client frames. -/
  Stream : Type
  /-- The reader before the client's first frame. -/
  stream : Stream
  /-- Reads bytes from the client. -/
  read : Stream → List UInt8 → Reading Stream
  /-- The frame a ping with this payload is answered with in a closing state, if it is. -/
  answer : Closing → List UInt8 → Option ServerFrame
  /-- The payload of the reply to a client's close frame with this payload. -/
  closeReply : List UInt8 → List UInt8
  /-- Whether data can still be sent in a closing state. -/
  sends : Closing → Bool
  /-- Closes the server's side: the frame it sends, if any, and the closing state after. -/
  close : Closing → Option ServerFrame × Closing
  /-- The bytes of a server frame. -/
  serverBytes : ServerFrame → List UInt8
  /-- The bytes a client of the library sends a frame as. -/
  clientBytes : ClientFrame → List UInt8
  /-- Whether the server's reader takes a client frame, rather than finding the protocol
  broken. -/
  takes : ClientFrame → Bool
  /-- What a client of the library makes of a server frame. -/
  heard : ServerFrame → Heard

/-- What the proofs about a client of the library assume of it:
* the server's reader, before any frame, reads nothing from no bytes, and reads each frame that a
  client of the library sends as the message it carries, frame by frame, until one it does not
  take, where it finds the protocol broken;
* data can be sent while nobody has closed, and closing sends at most a close frame;
* a client of the library reports a text frame's line, the end of the connection at a close
  frame, and nothing of the answer to a ping. -/
structure WsLibrary.Lawful (L : WsLibrary) : Prop where
  read_nil : L.read L.stream [] = ⟨[], some L.stream⟩
  read_frame : ∀ f rest, f.Sendable → L.read L.stream (L.clientBytes f ++ rest) =
    if L.takes f then (L.read L.stream rest).cons f.incoming else ⟨[], none⟩
  sends_active : L.sends .active = true
  close_sends : ∀ c f, (L.close c).1 = some f → ∃ payload, f = .close payload
  heard_text : ∀ line, L.heard (.text line) = .line line
  heard_close : ∀ payload, L.heard (.close payload) = .ended
  heard_answer : ∀ c data f, L.answer c data = some f → L.heard f = .nothing

end ChatHub.Web
