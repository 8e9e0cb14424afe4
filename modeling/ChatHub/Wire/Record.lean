import ChatHub.Message
import ChatHub.Text.Utf8
import ChatHub.Wire.Bytes
/-!
The binary record of a message, the payload of a frame.

Fields follow one another with no padding, numbers least significant byte first: the command's
number in four bytes, the time in eight, the online count in four; then sender, receiver and
content, each as an eight-byte length and that many bytes of UTF-8; last the terminal, one byte
0 for none or 1 followed by the terminal's number in four bytes. Reading ignores whatever
follows a complete record.
-/
namespace ChatHub.Wire

open Text

/-- A text field: its length in eight bytes, then its UTF-8 bytes. -/
def textField (s : String) : List UInt8 :=
  let bytes := Utf8.encodeString s
  littleEndian 8 bytes.length ++ bytes

/-- The optional terminal: a tag byte, and the terminal's number when there is one. -/
def terminalField : Option Terminal → List UInt8
  | none => [0]
  | some t => 1 :: littleEndian 4 t.index

/-- The record of a message. -/
def Record.encode (m : Message) : List UInt8 :=
  littleEndian 4 m.command.index ++ littleEndian 8 m.sendingTime.toNat ++
    littleEndian 4 m.onlineCount.toNat ++ textField m.sender ++ textField m.receiver ++
    textField m.content ++ terminalField m.terminal

/-- Reads a text field and the bytes after it; none when the bytes run out or are not UTF-8. -/
def readText (bs : List UInt8) : Option (String × List UInt8) := do
  let (n, rest) ← readLittle 8 bs
  if rest.length < n then none
  else
    let cs ← Utf8.decode? (rest.take n)
    pure (String.ofList cs, rest.drop n)

/-- Reads the optional terminal. -/
def readTerminal : List UInt8 → Option (Option Terminal)
  | 0 :: _ => some none
  | 1 :: rest => do
    let (i, _) ← readLittle 4 rest
    let t ← Terminal.ofIndex? i
    pure (some t)
  | _ => none

/-- Reads the record at the front of the bytes; none when they do not start with one. -/
def Record.decode (bs : List UInt8) : Option Message := do
  let (ci, r1) ← readLittle 4 bs
  let command ← Command.ofIndex? ci
  let (time, r2) ← readLittle 8 r1
  let (online, r3) ← readLittle 4 r2
  let (sender, r4) ← readText r3
  let (receiver, r5) ← readText r4
  let (content, r6) ← readText r5
  let terminal ← readTerminal r6
  pure { command, sendingTime := UInt64.ofNat time, onlineCount := UInt32.ofNat online,
         sender, receiver, content, terminal }

end ChatHub.Wire
