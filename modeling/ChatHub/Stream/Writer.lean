import ChatHub.Wire.Frame
/-!
Writing a console connection: messages as frames, text as lines.

A message whose record is too long for a frame is refused and writes nothing; every other write
appends its bytes. Shutting the writer down appends nothing and later writes still succeed.
-/
namespace ChatHub.Stream

open Wire Text

/-- One request to a writer. -/
inductive Outgoing where
  | message (m : Message)
  | text (line : String)
  | shutdown
  deriving DecidableEq, Repr

/-- The bytes a request appends, or the fault that refuses it. -/
def Outgoing.bytes : Outgoing → Except Fault (List UInt8)
  | .message m => Frame.encode m
  | .text line => .ok (Utf8.encodeString line ++ [0x0A])
  | .shutdown => .ok []

/-- Runs requests in order on a buffer: the outcome of each, and the bytes written. -/
def writeAll : List Outgoing → List (Except Fault Unit) × List UInt8
  | [] => ([], [])
  | w :: ws =>
    let (results, bytes) := writeAll ws
    match w.bytes with
    | .ok bs => (.ok () :: results, bs ++ bytes)
    | .error f => (.error f :: results, bytes)

end ChatHub.Stream
