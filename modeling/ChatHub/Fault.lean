import ChatHub.Text.Decimal
/-!
The faults a connection can end with, and the sentence each one is reported by.

A fault names its cause; the wording lives in `Fault.message` alone.
-/
namespace ChatHub

/-- The largest payload a frame may carry, in bytes. -/
def maxPayload : Nat := 8192

/-- The version byte every frame starts with. -/
def frameVersion : UInt8 := 1

/-- Why reading or writing a connection stopped. -/
inductive Fault where
  /-- The operating system or the transport reported an error, with its text. -/
  | io (text : String)
  /-- A record could not be written or read, with the reason. -/
  | serialization (text : String)
  /-- A frame started with another version byte. -/
  | versionMismatch (actual : UInt8)
  /-- A frame announced, or would need, more payload than a frame may carry. -/
  | frameTooLarge (size : Nat)
  /-- A frame stopped before its header or its payload was complete. -/
  | truncatedFrame (length : Nat)
  /-- Connecting took longer than allowed. -/
  | connectionTimeout
  /-- The other side closed the connection. -/
  | connectionClosed
  deriving DecidableEq, Repr, Inhabited

namespace Fault

/-- The sentence a fault is reported by. -/
def message : Fault → String
  | io text => "IO error: " ++ text
  | serialization text => "Serialization error: " ++ text
  | versionMismatch actual =>
    "Protocol version mismatch: expected " ++ String.ofList (Text.Decimal.write frameVersion.toNat) ++
      ", got " ++ String.ofList (Text.Decimal.write actual.toNat)
  | frameTooLarge size =>
    "Frame too large: " ++ String.ofList (Text.Decimal.write size) ++ " bytes (max: " ++
      String.ofList (Text.Decimal.write maxPayload) ++ ")"
  | truncatedFrame length =>
    "Truncated frame: " ++ String.ofList (Text.Decimal.write length) ++ " bytes"
  | connectionTimeout => "Connection timeout"
  | connectionClosed => "Connection closed"

end Fault

end ChatHub
