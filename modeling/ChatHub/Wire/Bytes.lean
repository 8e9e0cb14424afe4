/-!
Fixed-width unsigned numbers as bytes, least significant byte first or most significant byte
first. Main statement: reading back `k` bytes written for a number below `capacity k` (256 to
the power `k`) gives the number and leaves what followed.
-/
namespace ChatHub.Wire

/-- The `k` low bytes of a number, least significant first. -/
def littleEndian : Nat → Nat → List UInt8
  | 0, _ => []
  | k + 1, n => (n % 256).toUInt8 :: littleEndian k (n / 256)

/-- The `k` low bytes of a number, most significant first. -/
def bigEndian (k n : Nat) : List UInt8 :=
  (littleEndian k n).reverse

/-- The value of bytes read least significant first. -/
def valueLittle (bs : List UInt8) : Nat :=
  bs.foldr (fun b acc => b.toNat + 256 * acc) 0

/-- The value of bytes read most significant first. -/
def valueBig (bs : List UInt8) : Nat :=
  valueLittle bs.reverse

/-- Reads a number of `k` bytes, least significant first, and returns it with the bytes after
it; none when fewer than `k` bytes are left. -/
def readLittle (k : Nat) (bs : List UInt8) : Option (Nat × List UInt8) :=
  if bs.length < k then none else some (valueLittle (bs.take k), bs.drop k)

/-- How many numbers `k` bytes can hold: 256 to the power `k`. -/
def capacity : Nat → Nat
  | 0 => 1
  | k + 1 => 256 * capacity k

theorem length_littleEndian (k n : Nat) : (littleEndian k n).length = k := by
  induction k generalizing n with
  | zero => rfl
  | succ k ih => simp [littleEndian, ih]

theorem valueLittle_littleEndian (k n : Nat) (h : n < capacity k) :
    valueLittle (littleEndian k n) = n := by
  induction k generalizing n with
  | zero => simp only [capacity] at h; simp [littleEndian, valueLittle]; omega
  | succ k ih =>
    have hk : n / 256 < capacity k := by
      rw [Nat.div_lt_iff_lt_mul (by decide)]
      simp only [capacity] at h
      omega
    have hv := ih (n / 256) hk
    simp only [valueLittle] at hv
    simp only [littleEndian, valueLittle, List.foldr_cons, hv]
    have : ((n % 256).toUInt8).toNat = n % 256 := by
      simp [Nat.toUInt8]
    rw [this]
    omega

theorem readLittle_littleEndian (k n : Nat) (rest : List UInt8) (h : n < capacity k) :
    readLittle k (littleEndian k n ++ rest) = some (n, rest) := by
  have hl := length_littleEndian k n
  simp [readLittle, hl, valueLittle_littleEndian k n h]

end ChatHub.Wire
