import ChatHub.Web.Library
/-!
# WebSocket frames

A frame starts with two bytes: the final-fragment bit, three reserved bits and the opcode,
then the mask bit and a seven-bit length. A length of 126 or 127 is followed by the real length
in two or eight bytes, most significant first, and a masked frame then carries four mask
bytes, which are XORed over the payload in turn.

The server reads client frames, which must be masked, and assembles messages from them: a text
or binary message may come in fragments, continued by continuation frames; control frames
(close, ping, pong) stand alone, carry at most 125 bytes, and may come between fragments. Text
must be UTF-8, and a close frame carries nothing or a two-byte code and a UTF-8 reason. Anything
else is a protocol violation and ends reading.

The server writes its own frames whole and unmasked. A client writes its frames masked; the
frames written here for a client carry a zero mask.
-/
namespace ChatHub.Web

open Wire

/-- The largest payload of one frame: 16 MiB. -/
def maxFramePayload : Nat := 16 * 1024 * 1024

/-- The largest message assembled from fragments: 64 MiB. -/
def maxMessageSize : Nat := 64 * 1024 * 1024

/-- The opcodes the protocol defines. -/
inductive Opcode where
  | continuation
  | text
  | binary
  | close
  | ping
  | pong
  deriving DecidableEq, Repr

/-- The opcode with a number; the reserved numbers have none. -/
def Opcode.ofNat? : Nat → Option Opcode
  | 0 => some .continuation
  | 1 => some .text
  | 2 => some .binary
  | 8 => some .close
  | 9 => some .ping
  | 10 => some .pong
  | _ => none

/-- The number of an opcode. -/
def Opcode.toNat : Opcode → Nat
  | .continuation => 0
  | .text => 1
  | .binary => 2
  | .close => 8
  | .ping => 9
  | .pong => 10

/-- Whether an opcode is a control opcode. -/
def Opcode.isControl : Opcode → Bool
  | .close | .ping | .pong => true
  | _ => false

/-- A frame as read: its flags, opcode and payload, unmasked. -/
structure Frame where
  fin : Bool
  reserved : Bool
  opcode : Opcode
  masked : Bool
  payload : List UInt8
  deriving DecidableEq, Repr

/-- The outcome of reading a frame off the front of the bytes. -/
inductive FrameScan where
  /-- The frame is not complete yet. -/
  | more
  /-- The bytes cannot be a frame. -/
  | violation
  /-- A frame and the bytes after it. -/
  | frame (f : Frame) (rest : List UInt8)
  deriving Repr

/-- XORs the mask bytes over a payload in turn. -/
def unmask (mask : List UInt8) (payload : List UInt8) : List UInt8 :=
  payload.zipIdx.map fun (b, i) => b ^^^ mask.getD (i % 4) 0

/-- How many bytes of extended length follow a seven-bit length. -/
def extendedLengthSize (short : Nat) : Nat :=
  if short = 126 then 2 else if short = 127 then 8 else 0

/-- The payload length: the seven-bit length, or the extended length after it. -/
def payloadLength (short : Nat) (extended : List UInt8) : Nat :=
  if extended = [] then short else valueBig extended

/-- How many mask bytes follow the length. -/
def maskSize (masked : Bool) : Nat :=
  if masked then 4 else 0

/-- Reads a frame off the front of the bytes. The opcode is checked once the header is
complete, the length once it is known, and the payload is cut once it has all arrived. -/
def readFrame (bs : List UInt8) : FrameScan :=
  match bs with
  | b0 :: b1 :: rest =>
    let extra := extendedLengthSize (b1.toNat % 128)
    let masked := 128 ≤ b1.toNat
    let length := payloadLength (b1.toNat % 128) (rest.take extra)
    let body := (rest.drop extra).drop (maskSize masked)
    if rest.length < extra + maskSize masked then .more
    else
      match Opcode.ofNat? (b0.toNat % 16) with
      | none => .violation
      | some opcode =>
        if maxFramePayload < length then .violation
        else if body.length < length then .more
        else
          let payload := body.take length
          .frame
            { fin := 128 ≤ b0.toNat, reserved := b0.toNat / 16 % 8 != 0, opcode, masked,
              payload := if masked then unmask ((rest.drop extra).take 4) payload else payload }
            (body.drop length)
  | _ => .more

theorem readFrame_rest_length {bs rest : List UInt8} {f : Frame}
    (h : readFrame bs = .frame f rest) : rest.length < bs.length := by
  unfold readFrame at h
  split at h
  · rename_i b0 b1 tl
    dsimp only at h
    split at h
    · cases h
    · split at h
      · cases h
      · split at h
        · cases h
        · split at h
          · cases h
          · cases h
            simp only [List.length_drop, List.length_cons]
            omega
  · cases h

/-- A frame the server writes: final, unmasked, with the shortest length form. -/
def encodeFrame (opcode : Opcode) (payload : List UInt8) : List UInt8 :=
  let b0 := UInt8.ofNat (128 + opcode.toNat)
  let n := payload.length
  if n < 126 then b0 :: UInt8.ofNat n :: payload
  else if n < 65536 then b0 :: 126 :: bigEndian 2 n ++ payload
  else b0 :: 127 :: bigEndian 8 n ++ payload

/-- The bytes of a server frame. -/
def ServerFrame.bytes : ServerFrame → List UInt8
  | .text line => encodeFrame .text (Text.Utf8.encodeString line)
  | .pong data => encodeFrame .pong data
  | .close payload => encodeFrame .close payload

/-- The seven-bit length of a payload of `n` bytes, and the extended length after it. -/
def lengthForm (n : Nat) : Nat × List UInt8 :=
  if n < 126 then (n, [])
  else if n < 65536 then (126, bigEndian 2 n)
  else (127, bigEndian 8 n)

/-- The opcode of a client frame. -/
def ClientFrame.opcode : ClientFrame → Opcode
  | .text _ => .text
  | .binary _ => .binary
  | .ping _ => .ping
  | .pong _ => .pong
  | .close _ => .close

/-- The bytes a client sends a frame as: final, masked, as a client must, with a zero mask, and
with the shortest length form. -/
def ClientFrame.bytes (f : ClientFrame) : List UInt8 :=
  UInt8.ofNat (128 + f.opcode.toNat) :: UInt8.ofNat (128 + (lengthForm f.payload.length).1) ::
    ((lengthForm f.payload.length).2 ++ [0, 0, 0, 0] ++ f.payload)

/-- Whether a close frame's payload is well-formed: nothing, or a code and a UTF-8 reason. -/
def closePayloadOk : List UInt8 → Bool
  | [] => true
  | [_] => false
  | _ :: _ :: reason => (Text.Utf8.decode? reason).isSome

/-- Whether the reader takes a client frame whole: a data frame of at most `maxFramePayload`
bytes, a ping or pong of at most 125, and a close frame of at most 125 whose payload is
well-formed. -/
def ClientFrame.fits : ClientFrame → Bool
  | .text line => (Text.Utf8.encodeString line).length ≤ maxFramePayload
  | .binary data => data.length ≤ maxFramePayload
  | .ping data | .pong data => data.length ≤ 125
  | .close payload => payload.length ≤ 125 && closePayloadOk payload

/-- The server's reader of client frames: the bytes not yet read, and the fragments of a message
in progress (whether it is text, and its bytes so far). -/
structure FrameReader where
  buffer : List UInt8 := []
  fragments : Option (Bool × List UInt8) := none
  deriving DecidableEq, Repr

/-- The outcome of reading on. -/
inductive ReadStep where
  /-- More bytes are needed. -/
  | wait
  /-- The client broke the protocol. -/
  | violation
  /-- A frame was read that completes no message. -/
  | fragment (r : FrameReader)
  /-- A message was read. -/
  | message (m : Incoming) (r : FrameReader)
  deriving Repr

/-- The message a complete data payload makes, when it is well-formed. -/
def completeMessage (isText : Bool) (data : List UInt8) : Option Incoming :=
  if isText then (Text.Utf8.decode? data).map fun cs => .text (String.ofList cs)
  else some (.binary data)

/-- What a frame does to the reader: a message, a fragment, or a violation. -/
def FrameReader.accept (r : FrameReader) (f : Frame) (rest : List UInt8) : ReadStep :=
  let r := { r with buffer := rest }
  if f.reserved || !f.masked then .violation
  else if f.opcode.isControl then
    if !f.fin || 125 < f.payload.length then .violation
    else
      match f.opcode with
      | .ping => .message (.ping f.payload) r
      | .pong => .message (.pong f.payload) r
      | _ => if closePayloadOk f.payload then .message (.close f.payload) r else .violation
  else
    match f.opcode, r.fragments with
    | .continuation, none => .violation
    | .continuation, some (isText, sofar) =>
      let data := sofar ++ f.payload
      if maxMessageSize < data.length then .violation
      else if f.fin then
        match completeMessage isText data with
        | some m => .message m { r with fragments := none }
        | none => .violation
      else if isText && !Text.Utf8.isValidPrefix data then .violation
      else .fragment { r with fragments := some (isText, data) }
    | _, some _ => .violation
    | opcode, none =>
      let isText := opcode == .text
      if maxMessageSize < f.payload.length then .violation
      else if f.fin then
        match completeMessage isText f.payload with
        | some m => .message m r
        | none => .violation
      else if isText && !Text.Utf8.isValidPrefix f.payload then .violation
      else .fragment { r with fragments := some (isText, f.payload) }

/-- Reads the next frame from the buffer. -/
def FrameReader.step (r : FrameReader) : ReadStep :=
  match readFrame r.buffer with
  | .more => .wait
  | .violation => .violation
  | .frame f rest => r.accept f rest

/-- The close code the server echoes: a code a peer may send comes back as it is; any other
becomes 1002 with the reason "Protocol violation". -/
def closeReply (payload : List UInt8) : List UInt8 :=
  match payload with
  | hi :: lo :: _ =>
    let code := hi.toNat * 256 + lo.toNat
    if (1000 ≤ code ∧ code ≤ 1003) ∨ (1007 ≤ code ∧ code ≤ 1013) ∨ (3000 ≤ code ∧ code ≤ 4999) then
      payload
    else [0x03, 0xEA] ++ ("Protocol violation".toList.map fun c => c.toNat.toUInt8)
  | _ => []

end ChatHub.Web
