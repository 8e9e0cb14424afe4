import ChatHub.Web.Frame
import ChatHub.Web.Handshake
/-!
# The WebSocket library the hub is built with

The hub runs its WebSocket connections on tokio-tungstenite. This module puts together, as a
`WsLibrary`, what that library does on the server's side of a connection, as the recorded runs
show it:

* the opening handshake reads the client's bytes in packets of at most 4096 bytes and answers a
  complete request as `Handshake.receive` says;
* the reader takes frames as `FrameReader.step` says: messages of up to 64 MiB in frames of up
  to 16 MiB, control frames of up to 125 bytes, and well-formed close payloads;
* a ping is answered with a pong while nobody has closed, and data is sent only then;
* closing sends a close frame while nobody has closed, and the reply the client's close frame is
  owed once it has; the reply echoes a code a peer may send and answers any other with 1002.

The laws the proofs assume of a library hold of this one (`tungstenite_lawful`).
-/
namespace ChatHub.Web

/-- The most bytes one handshake read takes. -/
def handshakeChunk : Nat := 4096

/-- Cuts bytes into the packets a handshake reads, each at most `handshakeChunk` long. -/
def packets (bs : List UInt8) : List (List UInt8) :=
  match bs with
  | [] => []
  | b :: rest => (b :: rest).take handshakeChunk :: packets ((b :: rest).drop handshakeChunk)
termination_by bs.length
decreasing_by simp only [List.length_drop, List.length_cons, handshakeChunk]; omega

/-- Reads the packets of a handshake in turn. The packets after the one that completes the
request are the first frames. -/
def Handshake.readPackets : Handshake → List (List UInt8) → Upgraded Handshake
  | h, [] => .waiting h
  | h, p :: ps =>
    match h.receive p with
    | .waiting h => h.readPackets ps
    | .refused e => .refused e.text
    | .accepted response => .accepted response ps.flatten

/-- Reads messages off the buffer until more bytes are needed or the protocol is broken; the
fuel bounds the frames, each of which takes at least two bytes. -/
def FrameReader.readAll : Nat → FrameReader → Reading FrameReader
  | 0, r => ⟨[], some r⟩
  | fuel + 1, r =>
    match r.step with
    | .wait => ⟨[], some r⟩
    | .violation => ⟨[], none⟩
    | .fragment r' => readAll fuel r'
    | .message m r' => (readAll fuel r').cons m

/-- Bytes reach the reader, which reads every message they complete. -/
def FrameReader.read (r : FrameReader) (bs : List UInt8) : Reading FrameReader :=
  FrameReader.readAll (r.buffer.length + bs.length + 1) { r with buffer := r.buffer ++ bs }

/-- Closing the server's side: a close frame while nobody has closed, and the owed reply once
the client has; after that, nothing. -/
def Closing.close : Closing → Option ServerFrame × Closing
  | .active => (some (.close []), .closedByUs)
  | .closedByPeer reply => (some (.close reply), .terminated)
  | c => (none, c)

/-- What a client of the library makes of a server frame: a text frame's line, and the end of
the connection at a close frame. -/
def ServerFrame.heard : ServerFrame → Heard
  | .text line => .line line
  | .pong _ => .nothing
  | .close _ => .ended

/-- The WebSocket library the hub is built with. -/
def tungstenite : WsLibrary where
  Upgrade := Handshake
  upgradeStart := {}
  upgrade h bs := h.readPackets (packets bs)
  unfinished := HandshakeError.unfinished.text
  Stream := FrameReader
  stream := {}
  read := FrameReader.read
  answer c data := if c = .active then some (.pong data) else none
  closeReply := closeReply
  sends c := c == .active
  close := Closing.close
  serverBytes := ServerFrame.bytes
  clientBytes := ClientFrame.bytes
  takes := ClientFrame.fits
  heard := ServerFrame.heard

end ChatHub.Web
