import ChatHub.Text.Decimal
/-!
# Numeric hosts

A host may be written as an IPv4 or an IPv6 address. This module reads both forms and writes
them back in the form a listener reports.

IPv4 is read in the classic resolver's forms: one to four parts separated by dots, each part a
C literal (`0x` and hex digits, a leading `0` and octal digits, or decimal digits). Every part
but the last is one byte, and the last fills the bytes that are left: `127.1` is 127.0.0.1, and
so is `2130706433`.

IPv6 is eight groups of one to four hex digits separated by colons, where one `::` stands for
a run of zero groups, and the last two groups may be written as a dotted IPv4 address (four
decimal bytes without leading zeros). A zone may follow after `%`: a decimal number below
2^32, or, for an address of link scope, the name of an interface of the host. An address is
written in lower case without leading zeros, with the first longest run of two or more zero
groups shortened to `::`; an address mapped from IPv4 is written as `::ffff:` and the dotted
address.
-/
namespace ChatHub.Net

/-! ## IPv4 -/

/-- The value of a digit in base 16, or 16 for a character that is no hex digit. -/
def hexValue (c : Char) : Nat :=
  if '0' ≤ c ∧ c ≤ '9' then c.toNat - 48
  else if 'a' ≤ c ∧ c ≤ 'f' then c.toNat - 87
  else if 'A' ≤ c ∧ c ≤ 'F' then c.toNat - 55
  else 16

/-- The value of digits in a base up to 16, when every character is one of its digits. -/
def digitsIn (base : Nat) (cs : List Char) : Option Nat :=
  cs.foldl (fun acc c =>
    acc.bind fun n =>
      let d := hexValue c
      if d < base then some (n * base + d) else none) (some 0)

/-- The value of one part written as a C literal, with nothing after it. -/
def cLiteral? (cs : List Char) : Option Nat :=
  match cs with
  | '0' :: x :: hex@(_ :: _) => if x = 'x' ∨ x = 'X' then digitsIn 16 hex else digitsIn 8 (x :: hex)
  | '0' :: rest => digitsIn 8 rest
  | c :: rest => if '1' ≤ c ∧ c ≤ '9' then digitsIn 10 (c :: rest) else none
  | [] => none

/-- How many values the last part may take after `k` one-byte parts. -/
def lastPartRange : Nat → Nat
  | 0 => 4294967296
  | 1 => 16777216
  | 2 => 65536
  | _ => 256

/-- The address a numeric IPv4 host names, as a 32-bit number. -/
def ipv4? (host : String) : Option Nat := do
  let parts := host.toList.splitOn '.'
  if parts.length > 4 then none
  let values ← parts.mapM cLiteral?
  let leading := values.dropLast
  let last ← values.getLast?
  if leading.any (· > 0xFF) then none
  let range := lastPartRange leading.length
  if last ≥ range then none
  some (leading.foldl (fun acc v => acc * 256 + v) 0 * range + last)

/-- The dotted form of a 32-bit address. -/
def dotted (a : Nat) : String :=
  ".".intercalate ([a / 16777216, a / 65536 % 256, a / 256 % 256, a % 256].map
    fun n => String.ofList (Text.Decimal.write n))

/-! ## IPv6 -/

/-- Reads one byte of a dotted IPv4 address inside an IPv6 one: one to three decimal digits,
no leading zero, at most 255; with the rest. -/
def dottedByte? (cs : List Char) : Option (Nat × List Char) :=
  let ds := cs.takeWhile Char.isDigit
  match digitsIn 10 ds with
  | some v =>
    if ds.isEmpty || 3 < ds.length || (ds.head? = some '0' && 1 < ds.length) || 255 < v then none
    else some (v, cs.drop ds.length)
  | none => none

/-- Reads a dotted IPv4 address at the front: its 32-bit value and the rest. -/
def dottedPrefix? (cs : List Char) : Option (Nat × List Char) := do
  let (a, r) ← dottedByte? cs
  let r ← match r with | '.' :: r => some r | _ => none
  let (b, r) ← dottedByte? r
  let r ← match r with | '.' :: r => some r | _ => none
  let (c, r) ← dottedByte? r
  let r ← match r with | '.' :: r => some r | _ => none
  let (d, r) ← dottedByte? r
  some (((a * 256 + b) * 256 + c) * 256 + d, r)

/-- Reads one group of one to four hex digits at the front, with the rest. -/
def hexGroup? (cs : List Char) : Option (Nat × List Char) :=
  let ds := cs.takeWhile fun c => hexValue c < 16
  if ds.isEmpty || 4 < ds.length then none
  else (digitsIn 16 ds).map fun v => (v, cs.drop ds.length)

/-- Reads at most `slots` groups, each after a colon unless it is the first; a dotted address
may take the last two groups when at least two slots are left. The result is the groups, whether
a dotted address ended them, and the rest; a group that does not read leaves its colon. -/
def readGroups : Nat → Bool → List Char → List Nat × Bool × List Char
  | 0, _, cs => ([], false, cs)
  | slots + 1, first, cs =>
    let body := if first then some cs else match cs with | ':' :: r => some r | _ => none
    match body with
    | none => ([], false, cs)
    | some r =>
      match (if 1 ≤ slots then dottedPrefix? r else none) with
      | some (a, rest) => ([a / 65536, a % 65536], true, rest)
      | none =>
        match hexGroup? r with
        | some (g, rest) =>
          let (gs, dottedTail, rest) := readGroups slots false rest
          (g :: gs, dottedTail, rest)
        | none => ([], false, cs)

/-- The eight groups of an IPv6 address written in full. -/
def ipv6? (cs : List Char) : Option (List Nat) :=
  let (head, headDotted, rest) := readGroups 8 true cs
  if head.length = 8 then (if rest.isEmpty then some head else none)
  else if headDotted then none
  else
    match rest with
    | ':' :: ':' :: rest =>
      let (tail, _, rest) := readGroups (8 - (head.length + 1)) true rest
      if rest.isEmpty then some (head ++ List.replicate (8 - head.length - tail.length) 0 ++ tail)
      else none
    | _ => none

/-- Whether an IPv6 address has link scope, so that its zone may name an interface: a
link-local unicast address, or a multicast address of interface or link scope. -/
def isLinkScoped (gs : List Nat) : Bool :=
  let g := gs.headD 0
  g / 64 = 0xFE80 / 64 || (g / 256 = 0xFF && (g % 16 = 1 || g % 16 = 2))

/-- The longest interface name, in characters. -/
def maxInterfaceName : Nat := 15

/-- The number of the interface a name stands for among the host's `interfaces`. A name of at
most `maxInterfaceName` characters is looked up with anything from its first colon on left out,
as alias names are. -/
def interfaceIndex? (interfaces : List (String × Nat)) (name : List Char) : Option Nat :=
  if maxInterfaceName < name.length then none
  else
    let base := String.ofList (name.takeWhile (· ≠ ':'))
    (interfaces.find? (·.1 = base)).map (·.2)

/-- The number a zone stands for: for an address of link scope the interface it names, and
otherwise, or when it names none, decimal digits below 2^32 with leading zeros allowed. -/
def zoneIndex? (interfaces : List (String × Nat)) (linkScoped : Bool) (zone : List Char) :
    Option Nat :=
  match (if linkScoped then interfaceIndex? interfaces zone else none) with
  | some i => some i
  | none => if zone.all Char.isDigit then Text.Decimal.read? 4294967296 zone else none

/-- An IP address: 32 bits of IPv4, or the eight 16-bit groups of IPv6. -/
inductive IpAddr where
  | v4 (bits : Nat)
  | v6 (groups : List Nat)
  deriving DecidableEq, Repr

/-- How a host reads as a number. -/
inductive NumericHost where
  /-- The host is an address, with the number of its zone, 0 when it has none. -/
  | address (ip : IpAddr) (zone : Nat)
  /-- The host is an IPv6 address with a zone that stands for nothing. -/
  | badZone
  /-- The host is no number; it may be a name. -/
  | notNumeric
  deriving DecidableEq, Repr

/-- Reads a host as a number: an IPv4 address in one of the classic forms first, else an IPv6
address with an optional zone after the first `%`, which may name one of the host's
`interfaces`. -/
def NumericHost.read (interfaces : List (String × Nat)) (cs : List Char) : NumericHost :=
  match ipv4? (String.ofList cs) with
  | some a => .address (.v4 a) 0
  | none =>
    match cs.span (· ≠ '%') with
    | (addr, []) =>
      match ipv6? addr with
      | some gs => .address (.v6 gs) 0
      | none => .notNumeric
    | (addr, _ :: zone) =>
      match ipv6? addr with
      | some gs =>
        match zoneIndex? interfaces (isLinkScoped gs) zone with
        | some z => .address (.v6 gs) z
        | none => .badZone
      | none => .notNumeric

/-- The hex digits of a group, in lower case without leading zeros. -/
def hexGroupText (g : Nat) : String :=
  String.ofList (Nat.toDigits 16 g)

/-- The groups written with colons between them. -/
def joinGroups (gs : List Nat) : String :=
  ":".intercalate (gs.map hexGroupText)

/-- The first longest run of zero groups: where it starts and how long it is. -/
def longestZeroRun (gs : List Nat) : Nat × Nat :=
  let step := fun (acc : (Nat × Nat) × (Nat × Nat) × Nat) (g : Nat) =>
    let (best, (start, len), i) := acc
    let current := if g = 0 then (if len = 0 then (i, 1) else (start, len + 1)) else (0, 0)
    let best := if best.2 < current.2 then current else best
    (best, current, i + 1)
  (gs.foldl step ((0, 0), (0, 0), 0)).1

/-- The text of an IPv6 address as a listener reports it. -/
def showIpv6 (gs : List Nat) : String :=
  if gs.take 6 = [0, 0, 0, 0, 0, 0xFFFF] then
    "::ffff:" ++ dotted (gs.getD 6 0 * 65536 + gs.getD 7 0)
  else
    let (start, len) := longestZeroRun gs
    if len ≤ 1 then joinGroups gs
    else joinGroups (gs.take start) ++ "::" ++ joinGroups (gs.drop (start + len))

/-- The text of an address as a listener reports it. -/
def IpAddr.text : IpAddr → String
  | .v4 a => dotted a
  | .v6 gs => showIpv6 gs

end ChatHub.Net
