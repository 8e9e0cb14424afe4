import ChatHub.Fault
import ChatHub.Wire.Record
/-!
Frames: the version byte, the payload's length in four bytes most significant first, and the
payload, a message record of at most `maxPayload` bytes.
-/
namespace ChatHub.Wire

/-- The bytes in front of a payload. -/
def frameHeaderSize : Nat := 5

/-- The frame that carries a message, or `frameTooLarge` with the payload's size when the
record is longer than a frame may carry. -/
def Frame.encode (m : Message) : Except Fault (List UInt8) :=
  let payload := Record.encode m
  if maxPayload < payload.length then .error (.frameTooLarge payload.length)
  else .ok (frameVersion :: bigEndian 4 payload.length ++ payload)

/-- The payload of a frame, with the bytes after it ignored. A frame shorter than its header or
its announced length is truncated, and the version and the length limit are checked on the
way. -/
def Frame.payload (f : List UInt8) : Except Fault (List UInt8) :=
  match f with
  | v :: a :: b :: c :: d :: rest =>
    if v ≠ frameVersion then .error (.versionMismatch v)
    else
      let length := valueBig [a, b, c, d]
      if maxPayload < length then .error (.frameTooLarge length)
      else if rest.length < length then .error (.truncatedFrame f.length)
      else .ok (rest.take length)
  | _ => .error (.truncatedFrame f.length)

end ChatHub.Wire
