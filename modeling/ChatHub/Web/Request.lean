import ChatHub.Text.Utf8
/-!
# HTTP request heads

Reads the head of an HTTP/1.x request from the bytes received so far: the request line, the
header lines, and the empty line that ends them. Reading can need more bytes, fail with the
kind of mistake found first, or finish with the head and the bytes after it.

The grammar is the strict one of a request parser: a method is a token and `GET` is the only
method read without a token check; a target is at least one byte that is visible ASCII or
from 0x80 up, and is UTF-8 as a whole; the version is `HTTP/1.0` or `HTTP/1.1`; a line ends
with CR LF or LF alone; a header name is a token followed directly by a colon; a value is any
bytes but controls other than tab, with the blanks around it dropped. Empty lines before the
request line are skipped, and a head holds at most `maxHeaders` headers.
-/
namespace ChatHub.Web

/-- The kinds of mistake in a request head. -/
inductive HeadError where
  | token
  | version
  | newLine
  | headerName
  | headerValue
  | tooManyHeaders
  deriving DecidableEq, Repr

/-- The words for a mistake in a request head. -/
def HeadError.text : HeadError → String
  | .token => "invalid token"
  | .version => "invalid HTTP version"
  | .newLine => "invalid new line"
  | .headerName => "invalid header name"
  | .headerValue => "invalid header value"
  | .tooManyHeaders => "too many headers"

/-- The number of header slots of a request head; a header read with no slot left is too many. -/
def maxHeaders : Nat := 124

/-- The bytes of an ASCII text. -/
def asciiBytes (s : String) : List UInt8 :=
  s.toList.map fun c => c.toNat.toUInt8

/-- A byte in lower case, when it is an ASCII capital. -/
def lowerByte (b : UInt8) : UInt8 :=
  if 0x41 ≤ b ∧ b ≤ 0x5A then b + 32 else b

/-- Whether two byte strings are equal up to the case of ASCII letters. -/
def sameIgnoringCase (a b : List UInt8) : Bool :=
  a.map lowerByte == b.map lowerByte

/-- The head of a request. -/
structure RequestHead where
  method : List UInt8
  target : List UInt8
  /-- The digit after `HTTP/1.`. -/
  minorVersion : Nat
  headers : List (List UInt8 × List UInt8)
  deriving DecidableEq, Repr

/-- The outcome of reading part of a head. -/
inductive Scan (α : Type) where
  | more
  | fail (e : HeadError)
  | ok (a : α) (rest : List UInt8)
  deriving Repr

namespace Scan

/-- Reads one part, then the next from what is left. -/
def bind {α β : Type} (s : Scan α) (f : α → List UInt8 → Scan β) : Scan β :=
  match s with
  | .more => .more
  | .fail e => .fail e
  | .ok a rest => f a rest

end Scan

/-- A byte of a token: a letter, a digit, or one of ``!#$%&'*+-.^_`|~``. -/
def isTokenByte (b : UInt8) : Bool :=
  (0x30 ≤ b && b ≤ 0x39) || (0x41 ≤ b && b ≤ 0x5A) || (0x61 ≤ b && b ≤ 0x7A) ||
    [0x21, 0x23, 0x24, 0x25, 0x26, 0x27, 0x2A, 0x2B, 0x2D, 0x2E, 0x5E, 0x5F, 0x60, 0x7C,
      0x7E].contains b

/-- A byte of a request target: a visible ASCII byte, or a byte from 0x80 up. -/
def isTargetByte (b : UInt8) : Bool :=
  (0x21 ≤ b && b ≤ 0x7E) || 0x80 ≤ b

/-- A byte of a header value. -/
def isValueByte (b : UInt8) : Bool :=
  b == 0x09 || (0x20 ≤ b && b != 0x7F)

/-- Skips the empty lines before the request line. -/
def skipEmptyLines : List UInt8 → Scan Unit
  | [] => .more
  | 0x0D :: rest =>
    match rest with
    | [] => .more
    | 0x0A :: rest => skipEmptyLines rest
    | _ => .fail .newLine
  | 0x0A :: rest => skipEmptyLines rest
  | bs => .ok () bs

/-- Reads bytes of a token up to a space, which is consumed. -/
def tokenTail (acc : List UInt8) : List UInt8 → Scan (List UInt8)
  | [] => .more
  | b :: rest =>
    if b = 0x20 then .ok acc.reverse rest
    else if isTokenByte b then tokenTail (b :: acc) rest
    else .fail .token

/-- Reads the method and the space after it. -/
def readMethod (bs : List UInt8) : Scan (List UInt8) :=
  match bs with
  | 0x47 :: 0x45 :: 0x54 :: 0x20 :: rest => .ok [0x47, 0x45, 0x54] rest
  | [] => .more
  | b :: rest => if isTokenByte b then tokenTail [b] rest else .fail .token

/-- Reads the target and the space after it; the target must be UTF-8. -/
def readTarget (bs : List UInt8) : Scan (List UInt8) :=
  let target := bs.takeWhile isTargetByte
  match bs.drop target.length with
  | [] => .more
  | b :: rest =>
    if b = 0x20 && !target.isEmpty && (Text.Utf8.decode? target).isSome then .ok target rest
    else .fail .token

/-- Reads `HTTP/1.0` or `HTTP/1.1`: the digit after the point. -/
def readVersion (bs : List UInt8) : Scan Nat :=
  let want : List UInt8 := [0x48, 0x54, 0x54, 0x50, 0x2F, 0x31, 0x2E]
  let given := bs.take 7
  if given != want.take given.length then .fail .version
  else
    match bs.drop 7 with
    | [] => .more
    | d :: rest =>
      if d = 0x30 then .ok 0 rest else if d = 0x31 then .ok 1 rest else .fail .version

/-- Reads a line end: CR LF or LF. -/
def readNewLine (e : HeadError) : List UInt8 → Scan Unit
  | [] => .more
  | 0x0D :: rest =>
    match rest with
    | [] => .more
    | 0x0A :: rest => .ok () rest
    | _ => .fail e
  | 0x0A :: rest => .ok () rest
  | _ => .fail .newLine

/-- Reads a header name up to its colon, which is consumed. -/
def readName (bs : List UInt8) : Scan (List UInt8) :=
  let name := bs.takeWhile isTokenByte
  match bs.drop name.length with
  | [] => .more
  | b :: rest => if b = 0x3A then .ok name rest else .fail .headerName

/-- Cuts the blanks off the end of a value. -/
def trimValueEnd (v : List UInt8) : List UInt8 :=
  (v.reverse.dropWhile fun b => b = 0x20 || b = 0x09 || b = 0x0D || b = 0x0A).reverse

/-- Reads a header value and its line end. -/
def readValue (bs : List UInt8) : Scan (List UInt8) :=
  let body := bs.dropWhile fun b => b = 0x20 || b = 0x09
  let value := body.takeWhile fun b => isValueByte b && b != 0x0D && b != 0x0A
  match body.drop value.length with
  | [] => .more
  | 0x0D :: rest =>
    match rest with
    | [] => .more
    | 0x0A :: rest => .ok (trimValueEnd value) rest
    | _ => .fail .headerValue
  | 0x0A :: rest => .ok (trimValueEnd value) rest
  | _ => .fail .headerValue

theorem readName_length {bs name rest : List UInt8} (h : readName bs = .ok name rest) :
    rest.length < bs.length := by
  unfold readName at h
  dsimp only at h
  split at h
  · simp at h
  · rename_i b tl hd
    split at h
    · simp only [Scan.ok.injEq] at h
      obtain ⟨-, rfl⟩ := h
      have := congrArg List.length hd
      simp only [List.length_drop, List.length_cons] at this
      omega
    · simp at h

theorem readValue_length {bs value rest : List UInt8} (h : readValue bs = .ok value rest) :
    rest.length < bs.length := by
  unfold readValue at h
  have hb := (List.dropWhile_suffix (fun b : UInt8 => b = 0x20 || b = 0x09) (l := bs)).length_le
  dsimp only at h
  split at h
  · simp at h
  · rename_i tl hd
    split at h
    · simp at h
    · simp only [Scan.ok.injEq] at h
      obtain ⟨-, rfl⟩ := h
      have := congrArg List.length hd
      simp only [List.length_drop, List.length_cons] at this
      omega
    · simp at h
  · rename_i tl hd
    simp only [Scan.ok.injEq] at h
    obtain ⟨-, rfl⟩ := h
    have := congrArg List.length hd
    simp only [List.length_drop, List.length_cons] at this
    omega
  · simp at h

/-- Reads header lines up to the empty line; `count` headers have been read so far. A whole
header line read when `maxHeaders` headers are there is one too many; the empty line may still
follow them. -/
def readHeaders (count : Nat) (acc : List (List UInt8 × List UInt8)) (bs : List UInt8) :
    Scan (List (List UInt8 × List UInt8)) :=
  match bs with
  | [] => .more
  | 0x0D :: rest =>
    match rest with
    | [] => .more
    | 0x0A :: rest => .ok acc.reverse rest
    | _ => .fail .newLine
  | 0x0A :: rest => .ok acc.reverse rest
  | b :: tl =>
    if !isTokenByte b then .fail .headerName
    else
      match hn : readName (b :: tl) with
      | .more => .more
      | .fail e => .fail e
      | .ok name rest =>
        match hv : readValue rest with
        | .more => .more
        | .fail e => .fail e
        | .ok value after =>
          if count = maxHeaders then .fail .tooManyHeaders
          else
            have : after.length < tl.length + 1 := by
              have h1 := readName_length hn
              have h2 := readValue_length hv
              simp only [List.length_cons] at h1
              omega
            readHeaders (count + 1) ((name, value) :: acc) after
termination_by bs.length

/-- Reads a request head from the bytes received so far. -/
def readHead (bs : List UInt8) : Scan RequestHead :=
  (skipEmptyLines bs).bind fun _ bs =>
  (readMethod bs).bind fun method bs =>
  (readTarget bs).bind fun target bs =>
  (readVersion bs).bind fun minorVersion bs =>
  (readNewLine .newLine bs).bind fun _ bs =>
  (readHeaders 0 [] bs).bind fun headers rest =>
  .ok { method, target, minorVersion, headers } rest

end ChatHub.Web
