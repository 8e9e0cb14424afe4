import ChatHub.Text.Blank
import ChatHub.Wire.Frame
/-!
The binary decoder of one connection. It reads frames or bare payloads until the first one
that fails, and from then on it reads nothing: a connection that sends something else than
frames is not asked again. Blank input, no bytes or only blank bytes, is no frame and no
failure.
-/
namespace ChatHub.Wire

/-- Whether a connection's binary input is still read. -/
structure Decoder where
  enabled : Bool := true
  deriving DecidableEq, Repr, Inhabited

namespace Decoder

/-- The decoder after a failure. -/
def disabled : Decoder := { enabled := false }

/-- Reads a bare payload: the message it starts with, if any, and the decoder after it. -/
def readPayload (d : Decoder) (p : List UInt8) : Option Message × Decoder :=
  if !d.enabled || Text.isBlankBytes p then (none, d)
  else
    match Record.decode p with
    | some m => (some m, d)
    | none => (none, disabled)

/-- Reads a whole frame: the message its payload starts with, if any, and the decoder after it. -/
def readFrame (d : Decoder) (f : List UInt8) : Option Message × Decoder :=
  if !d.enabled || Text.isBlankBytes f then (none, d)
  else
    match Frame.payload f with
    | .ok p => d.readPayload p
    | .error _ => (none, disabled)

end Decoder

end ChatHub.Wire
