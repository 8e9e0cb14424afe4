/-!
UTF-8, the byte form of text on the wire.

Writing gives each character its shortest byte sequence. Reading runs a small automaton over
the bytes that accepts exactly the well-formed sequences of the Unicode standard: no overlong
forms, no surrogates, nothing above U+10FFFF. Where the bytes go wrong, the reader reports one
gap for each maximal run that could have begun a character, so a lossy reading puts one
replacement character there and a strict reading fails.
-/
namespace ChatHub.Text.Utf8

/-- The bytes of one character, shortest form. -/
def encodeChar (c : Char) : List UInt8 :=
  let n := c.toNat
  if n < 0x80 then [n.toUInt8]
  else if n < 0x800 then [(0xC0 + n / 64).toUInt8, (0x80 + n % 64).toUInt8]
  else if n < 0x10000 then
    [(0xE0 + n / 4096).toUInt8, (0x80 + n / 64 % 64).toUInt8, (0x80 + n % 64).toUInt8]
  else
    [(0xF0 + n / 262144).toUInt8, (0x80 + n / 4096 % 64).toUInt8, (0x80 + n / 64 % 64).toUInt8,
      (0x80 + n % 64).toUInt8]

/-- The bytes of a text. -/
def encode (cs : List Char) : List UInt8 :=
  cs.flatMap encodeChar

/-- The bytes of a string. -/
def encodeString (s : String) : List UInt8 :=
  encode s.toList

/-- Where the reader stands between two bytes. -/
inductive State where
  /-- At the start of a character. -/
  | idle
  /-- Inside a character: `need` more bytes, the value so far, and the range the next byte
  must lie in. -/
  | inside (need : Nat) (value : Nat) (lo hi : UInt8)
  deriving DecidableEq, Repr

/-- What a lead byte starts: the number of bytes after it, the bits it carries, and the range
of the byte right after it. Bytes that cannot lead a character have none. -/
def lead? (b : UInt8) : Option (Nat × Nat × UInt8 × UInt8) :=
  if 0xC2 ≤ b ∧ b ≤ 0xDF then some (1, b.toNat % 32, 0x80, 0xBF)
  else if b = 0xE0 then some (2, 0, 0xA0, 0xBF)
  else if 0xE1 ≤ b ∧ b ≤ 0xEC then some (2, b.toNat % 16, 0x80, 0xBF)
  else if b = 0xED then some (2, 13, 0x80, 0x9F)
  else if 0xEE ≤ b ∧ b ≤ 0xEF then some (2, b.toNat % 16, 0x80, 0xBF)
  else if b = 0xF0 then some (3, 0, 0x90, 0xBF)
  else if 0xF1 ≤ b ∧ b ≤ 0xF3 then some (3, b.toNat % 8, 0x80, 0xBF)
  else if b = 0xF4 then some (3, 4, 0x80, 0x8F)
  else none

/-- Reads a byte at the start of a character: a character for ASCII, a gap (none) for a byte
that cannot lead, and otherwise the state inside the character it leads. -/
def start (b : UInt8) : List (Option Char) × State :=
  if b < 0x80 then ([some (Char.ofNat b.toNat)], .idle)
  else
    match lead? b with
    | some (need, value, lo, hi) => ([], .inside need value lo hi)
    | none => ([none], .idle)

/-- Reads one byte. A byte outside the expected range ends the character as a gap and is read
again at the start of a character. -/
def feed : State → UInt8 → List (Option Char) × State
  | .idle, b => start b
  | .inside need value lo hi, b =>
    if lo ≤ b ∧ b ≤ hi then
      let value := value * 64 + b.toNat % 64
      if need ≤ 1 then ([some (Char.ofNat value)], .idle)
      else ([], .inside (need - 1) value 0x80 0xBF)
    else
      let (out, s) := start b
      (none :: out, s)

/-- Reads the bytes from a state: the characters and gaps in order. A character left open at
the end is a gap. -/
def run : State → List UInt8 → List (Option Char)
  | .idle, [] => []
  | .inside .., [] => [none]
  | s, b :: bs =>
    let (out, s') := feed s b
    out ++ run s' bs

/-- The characters and gaps of a byte string. -/
def units (bs : List UInt8) : List (Option Char) :=
  run .idle bs

/-- The text of the bytes with a replacement character for each gap. -/
def decodeLossy (bs : List UInt8) : List Char :=
  (units bs).map fun u => u.getD '�'

/-- The text of the bytes, when they are well-formed UTF-8. -/
def decode? (bs : List UInt8) : Option (List Char) :=
  (units bs).mapM id

/-- Reads the bytes from a state without closing a character left open at the end: the units
read and the state reached. -/
def scan : State → List UInt8 → List (Option Char) × State
  | s, [] => ([], s)
  | s, b :: bs =>
    let (out, s') := feed s b
    let (rest, last) := scan s' bs
    (out ++ rest, last)

/-- Whether the bytes can start well-formed UTF-8: no gap so far, though the last character
may still be open. -/
def isValidPrefix (bs : List UInt8) : Bool :=
  (scan .idle bs).1.all Option.isSome

end ChatHub.Text.Utf8
