import ChatHub.Wire.Bytes
/-!
# SHA-1

The SHA-1 digest of a byte string (FIPS 180-4): the message is padded with a one bit, zeros
and its length in bits to a whole number of 64-byte blocks, and each block is folded into five
32-bit words by eighty rounds. The digest is the five words, most significant byte first.
-/
namespace ChatHub.Digest

open Wire

/-- Rotates a word left. -/
def rotl (x : UInt32) (n : UInt32) : UInt32 :=
  (x <<< n) ||| (x >>> (32 - n))

/-- The message followed by the padding: a 0x80 byte, zeros up to 56 bytes past a multiple of
64, and the length in bits in eight bytes. -/
def Sha1.pad (msg : List UInt8) : Array UInt8 :=
  let len := msg.length
  let zeros := (119 - len % 64) % 64
  (msg ++ 0x80 :: List.replicate zeros 0 ++ bigEndian 8 (8 * len)).toArray

/-- The word at a byte offset, most significant byte first. -/
def Sha1.wordAt (bs : Array UInt8) (i : Nat) : UInt32 :=
  ((bs.getD i 0).toUInt32 <<< 24) ||| ((bs.getD (i + 1) 0).toUInt32 <<< 16) |||
    ((bs.getD (i + 2) 0).toUInt32 <<< 8) ||| (bs.getD (i + 3) 0).toUInt32

/-- The eighty words of a block's schedule. -/
def Sha1.schedule (bs : Array UInt8) (start : Nat) : Array UInt32 :=
  let first := (List.range 16).toArray.map fun j => wordAt bs (start + 4 * j)
  (List.range 64).foldl (fun w j =>
    let t := j + 16
    w.push (rotl (w.getD (t - 3) 0 ^^^ w.getD (t - 8) 0 ^^^ w.getD (t - 14) 0 ^^^ w.getD (t - 16) 0) 1))
    first

/-- The state of the digest: five words. -/
structure Sha1.State where
  a : UInt32
  b : UInt32
  c : UInt32
  d : UInt32
  e : UInt32

/-- The state before any block. -/
def Sha1.initial : Sha1.State :=
  ⟨0x67452301, 0xEFCDAB89, 0x98BADCFE, 0x10325476, 0xC3D2E1F0⟩

/-- One of the eighty rounds. -/
def Sha1.round (s : Sha1.State) (t : Nat) (w : UInt32) : Sha1.State :=
  let (f, k) :=
    if t < 20 then ((s.b &&& s.c) ||| (~~~s.b &&& s.d), (0x5A827999 : UInt32))
    else if t < 40 then (s.b ^^^ s.c ^^^ s.d, 0x6ED9EBA1)
    else if t < 60 then ((s.b &&& s.c) ||| (s.b &&& s.d) ||| (s.c &&& s.d), 0x8F1BBCDC)
    else (s.b ^^^ s.c ^^^ s.d, 0xCA62C1D6)
  let temp := rotl s.a 5 + f + s.e + k + w
  ⟨temp, s.a, rotl s.b 30, s.c, s.d⟩

/-- Folds one block into the state. -/
def Sha1.block (s : Sha1.State) (bs : Array UInt8) (start : Nat) : Sha1.State :=
  let w := schedule bs start
  let r := (List.range 80).foldl (fun r t => round r t (w.getD t 0)) s
  ⟨s.a + r.a, s.b + r.b, s.c + r.c, s.d + r.d, s.e + r.e⟩

/-- The twenty-byte SHA-1 digest of a message. -/
def sha1 (msg : List UInt8) : List UInt8 :=
  let bs := Sha1.pad msg
  let s := (List.range (bs.size / 64)).foldl (fun s i => Sha1.block s bs (64 * i)) Sha1.initial
  [s.a, s.b, s.c, s.d, s.e].flatMap fun x => bigEndian 4 x.toNat

end ChatHub.Digest
