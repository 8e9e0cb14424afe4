import ChatHub.Text.Utf8
import ChatHub.Web.Request
/-!
# Request targets

The target of a request must read as a URI of one of the forms a request line may carry:

* `*`, or a path starting with `/`, with an optional query after `?` and a fragment after `#`;
  a path may not hold `<`, `>` or the backquote, a query may not hold `"`, `<` or `>`, a
  fragment may hold anything, and the part before the fragment must be UTF-8;
* an authority alone, `host:port`, as in a CONNECT request;
* an absolute URI: a scheme, `://`, a non-empty authority, and then a path as above; nothing
  at all after the `://` is an empty URI.

An authority is read up to the first `/`, `?` or `#`. It allows letters, digits and
``!$&'()*+,-.;=_~`` freely, at most one port colon after the last `@` or `]`, one pair of
brackets around an IPv6 address, a `%` only in the part before an `@`, and never a final `@`.
A scheme is made of letters, digits, `+`, `-`, `.` and `~`, and is at most 64 bytes long.
-/
namespace ChatHub.Web

/-- Why a target is not a URI. -/
inductive TargetError where
  | empty
  | invalidChar
  | invalidAuthority
  | invalidFormat
  | tooLong
  | schemeTooLong
  deriving DecidableEq, Repr

/-- The words for a target that is not a URI. -/
def TargetError.text : TargetError → String
  | .empty => "empty string"
  | .invalidChar => "invalid uri character"
  | .invalidAuthority => "invalid authority"
  | .invalidFormat => "invalid format"
  | .tooLong => "uri too long"
  | .schemeTooLong => "scheme too long"

/-- The longest target, in bytes. -/
def maxTargetLength : Nat := 65534

/-- The longest scheme, in bytes. -/
def maxSchemeLength : Nat := 64

/-- The most colons an authority may hold before its last `@` or `]`. -/
def maxColons : Nat := 8

/-- Whether a byte is an ASCII letter or digit. -/
def isAlphanumeric (b : UInt8) : Bool :=
  (0x41 ≤ b && b ≤ 0x5A) || (0x61 ≤ b && b ≤ 0x7A) || (0x30 ≤ b && b ≤ 0x39)

/-- The bytes an authority takes as they are, besides letters and digits:
``!$&'()*+,-.;=_~``. -/
def authorityMarks : List UInt8 :=
  [0x21, 0x24, 0x26, 0x27, 0x28, 0x29, 0x2A, 0x2B, 0x2C, 0x2D, 0x2E, 0x3B, 0x3D, 0x5F, 0x7E]

/-- What an authority scan has seen so far. -/
structure AuthorityScan where
  colons : Nat := 0
  openBracket : Bool := false
  closeBracket : Bool := false
  percent : Bool := false
  atSign : Option Nat := none
  deriving DecidableEq, Repr

/-- The checks at the end of an authority of `stop` bytes. -/
def AuthorityScan.finish (st : AuthorityScan) (stop : Nat) : Except TargetError Nat :=
  if st.openBracket != st.closeBracket || 1 < st.colons then .error .invalidAuthority
  else if 0 < stop && st.atSign == some (stop - 1) then .error .invalidAuthority
  else if st.percent then .error .invalidAuthority
  else .ok stop

/-- Scans an authority from position `i`: the position where it ends, or why it is not one. -/
def scanAuthority : List UInt8 → Nat → AuthorityScan → Except TargetError Nat
  | [], i, st => st.finish i
  | b :: rest, i, st =>
    if b == 0x2F || b == 0x3F || b == 0x23 then st.finish i
    else if b == 0x3A then
      if maxColons ≤ st.colons then .error .invalidAuthority
      else scanAuthority rest (i + 1) { st with colons := st.colons + 1 }
    else if b == 0x5B then
      if st.percent || st.openBracket then .error .invalidAuthority
      else scanAuthority rest (i + 1) { st with openBracket := true }
    else if b == 0x5D then
      if !st.openBracket || st.closeBracket then .error .invalidAuthority
      else scanAuthority rest (i + 1) { st with closeBracket := true, colons := 0, percent := false }
    else if b == 0x40 then
      scanAuthority rest (i + 1) { st with atSign := some i, colons := 0, percent := false }
    else if b == 0x25 then scanAuthority rest (i + 1) { st with percent := true }
    else if isAlphanumeric b || authorityMarks.contains b then scanAuthority rest (i + 1) st
    else .error .invalidChar

/-- Where the authority at the front of the bytes ends. -/
def authorityEnd (bs : List UInt8) : Except TargetError Nat :=
  scanAuthority bs 0 {}

/-- Whether a byte may stand in a scheme. -/
def isSchemeByte (b : UInt8) : Bool :=
  isAlphanumeric b || b == 0x2B || b == 0x2D || b == 0x2E || b == 0x7E

/-- How many bytes a scheme and its `://` take at the front of a target, if it starts with
one: `http://` and `https://` in any case, or scheme bytes up to a colon followed by `//`. A
target of at most three bytes has none. -/
def schemePrefix (bs : List UInt8) : Except TargetError (Option Nat) :=
  if 7 ≤ bs.length && sameIgnoringCase (bs.take 7) (asciiBytes "http://") then .ok (some 7)
  else if 8 ≤ bs.length && sameIgnoringCase (bs.take 8) (asciiBytes "https://") then .ok (some 8)
  else if bs.length ≤ 3 then .ok none
  else
    let name := bs.takeWhile isSchemeByte
    match bs.drop name.length with
    | 0x3A :: 0x2F :: 0x2F :: _ =>
      if maxSchemeLength < name.length then .error .schemeTooLong else .ok (some (name.length + 3))
    | _ => .ok none

/-- Whether a path may hold a byte as it is: a visible byte other than `<`, `>` and the
backquote, or a byte from 0x7F up. -/
def isPathByte (b : UInt8) : Bool :=
  0x21 ≤ b && b != 0x3C && b != 0x3E && b != 0x60

/-- Whether a query may hold a byte as it is: a visible byte other than `"`, `<` and `>`, or a
byte from 0x7F up. -/
def isQueryByte (b : UInt8) : Bool :=
  0x21 ≤ b && b != 0x22 && b != 0x3C && b != 0x3E

/-- Checks a path with its query and fragment: the path up to the first `?` or `#` and the
query from that `?` up to the first `#` may hold only their bytes, and the two together must be
UTF-8. -/
def checkPath (bs : List UInt8) : Except TargetError Unit :=
  let beforeFragment := bs.takeWhile (· != 0x23)
  let path := beforeFragment.takeWhile (· != 0x3F)
  let query := beforeFragment.drop path.length
  if path.all isPathByte && query.all isQueryByte && (Text.Utf8.decode? beforeFragment).isSome then
    .ok ()
  else .error .invalidChar

/-- Checks a target that is not a bare path: an absolute URI, or an authority alone. -/
def checkAbsolute (bs : List UInt8) : Except TargetError Unit := do
  match ← schemePrefix bs with
  | none =>
    let stop ← authorityEnd bs
    if stop != bs.length then throw .invalidFormat
  | some skip =>
    let rest := bs.drop skip
    if rest.isEmpty then throw .empty
    let stop ← authorityEnd rest
    if stop == 0 then throw .invalidFormat
    checkPath (rest.drop stop)

/-- Checks that a request target reads as a URI. -/
def checkTarget (bs : List UInt8) : Except TargetError Unit :=
  if maxTargetLength < bs.length then .error .tooLong
  else
    match bs with
    | [0x2F] | [0x2A] => .ok ()
    | [b] => do
      let stop ← authorityEnd [b]
      if stop != 1 then throw .invalidChar
    | 0x2F :: _ => checkPath bs
    | _ => checkAbsolute bs

end ChatHub.Web
