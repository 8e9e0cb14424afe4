import ChatHub.Text.Utf8
import Mathlib.Data.String.Basic
/-!
# ChatHub — UTF-8 written and read back

The writer gives each character its shortest byte sequence and the reader is an automaton over
the well-formed sequences. This module ties the two together, and the writer to Lean's own
encoder:

* **`encodeChar_eq`** — the writer writes what `String.utf8EncodeChar` writes, so the bytes of a
  string number its `utf8ByteSize` (`length_encodeString`);
* **`units_encode`** — reading the bytes of a text gives its characters back, with no gap, so a
  strict reading and a lossy reading both give the text (`decode?_encode`, `decodeLossy_encode`);
* **`mem_encode`** — a byte below 0x80 among a text's bytes is one of its characters, so a text
  without line feeds writes no line-feed byte and a text starts with a byte below 0x80 only by
  starting with that character.

The round trip rests on the lead-byte table of the standard (`lead?_two`, `lead?_three`,
`lead?_four`): the high bits a lead byte carries, and the range it allows for the next byte.
-/

namespace ChatHub.Text.Utf8

/-! ## Bytes as numbers -/

theorem toNat_toUInt8 {k : Nat} (h : k < 256) : k.toUInt8.toNat = k := by
  simp [Nat.toUInt8, Nat.mod_eq_of_lt h]

/-- A continuation byte: the marker bits `10` and six bits of a value. -/
theorem toNat_tail (n : Nat) : (0x80 + n % 64).toUInt8.toNat = 0x80 + n % 64 :=
  toNat_toUInt8 (by omega)

/-- A character is below the surrogates, or above them and below U+110000. -/
theorem toNat_range (c : Char) : c.toNat < 0xD800 ∨ (0xE000 ≤ c.toNat ∧ c.toNat < 0x110000) := by
  have h := c.valid
  simp only [UInt32.isValidChar, Nat.isValidChar] at h
  simp only [Char.toNat]
  omega

/-! ## The writer is Lean's encoder -/

/-- **The writer is Lean's encoder.** Both split at 0x80, 0x800 and 0x10000; the lead byte of
Lean's encoder masks its high bits, which a valid character never sets. -/
theorem encodeChar_eq (c : Char) : encodeChar c = String.utf8EncodeChar c := by
  have hv : c.val.toNat = c.toNat := rfl
  have hr := toNat_range c
  unfold encodeChar String.utf8EncodeChar
  simp only [hv, Nat.toUInt8]
  by_cases h1 : c.toNat < 0x80
  · rw [if_pos h1, if_pos (show c.toNat ≤ 127 by omega)]
  rw [if_neg h1, if_neg (show ¬ c.toNat ≤ 127 by omega)]
  by_cases h2 : c.toNat < 0x800
  · rw [if_pos h2, if_pos (show c.toNat ≤ 2047 by omega),
      Nat.mod_eq_of_lt (by omega : c.toNat / 64 < 32), Nat.add_comm 0xC0, Nat.add_comm 0x80]
  rw [if_neg h2, if_neg (show ¬ c.toNat ≤ 2047 by omega)]
  by_cases h3 : c.toNat < 0x10000
  · rw [if_pos h3, if_pos (show c.toNat ≤ 65535 by omega),
      Nat.mod_eq_of_lt (by omega : c.toNat / 4096 < 16), Nat.add_comm 0xE0, Nat.add_comm 0x80,
      Nat.add_comm 0x80]
  rw [if_neg h3, if_neg (show ¬ c.toNat ≤ 65535 by omega),
    Nat.mod_eq_of_lt (by omega : c.toNat / 262144 < 8), Nat.add_comm 0xF0, Nat.add_comm 0x80,
    Nat.add_comm 0x80, Nat.add_comm 0x80]

theorem length_encodeChar (c : Char) : (encodeChar c).length = c.utf8Size := by
  rw [encodeChar_eq, String.length_utf8EncodeChar]

@[simp] theorem encode_nil : encode [] = [] := rfl

@[simp] theorem encode_cons (c : Char) (cs : List Char) :
    encode (c :: cs) = encodeChar c ++ encode cs := List.flatMap_cons

theorem encode_append (cs ds : List Char) : encode (cs ++ ds) = encode cs ++ encode ds :=
  List.flatMap_append

/-- **A string's bytes number its UTF-8 size.** -/
theorem length_encodeString (s : String) : (encodeString s).length = s.utf8ByteSize := by
  rw [← String.utf8Len_toList, encodeString]
  induction s.toList with
  | nil => rfl
  | cons c cs ih =>
    rw [encode_cons, List.length_append, ih, length_encodeChar, String.utf8Len_cons, Nat.add_comm]

/-! ## The lead-byte table -/

/-- Lead bytes 0xC2 to 0xDF start two bytes and carry five bits. -/
theorem lead?_two : ∀ k < 30, lead? (0xC2 + k).toUInt8 = some (1, k + 2, 0x80, 0xBF) := by
  decide

/-- Lead bytes 0xE0 to 0xEF start three bytes and carry four bits; after 0xE0 the next byte is
at least 0xA0 (no overlong form), after 0xED at most 0x9F (no surrogate). -/
theorem lead?_three : ∀ k < 16, lead? (0xE0 + k).toUInt8 =
    some (2, k, if k = 0 then 0xA0 else 0x80, if k = 13 then 0x9F else 0xBF) := by
  decide

/-- Lead bytes 0xF0 to 0xF4 start four bytes and carry three bits; after 0xF0 the next byte is
at least 0x90 (no overlong form), after 0xF4 at most 0x8F (nothing above U+10FFFF). -/
theorem lead?_four : ∀ k < 5, lead? (0xF0 + k).toUInt8 =
    some (3, k, if k = 0 then 0x90 else 0x80, if k = 4 then 0x8F else 0xBF) := by
  decide

/-! ## The reader, byte by byte -/

theorem run_cons (s : State) (b : UInt8) (bs : List UInt8) :
    run s (b :: bs) = (feed s b).1 ++ run (feed s b).2 bs := by
  cases s <;> rfl

/-- A lead byte moves the reader inside a character. -/
theorem run_lead {b : UInt8} {need value : Nat} {lo hi : UInt8} (hb : 0x80 ≤ b.toNat)
    (h : lead? b = some (need, value, lo, hi)) (bs : List UInt8) :
    run .idle (b :: bs) = run (.inside need value lo hi) bs := by
  have hlt : ¬ b < 0x80 := by simpa [UInt8.lt_iff_toNat_lt] using hb
  simp [run_cons, feed, start, hlt, h]

/-- A continuation byte in the expected range adds its six bits to the value, and the last one
gives the character. -/
theorem run_inside {need value : Nat} {lo hi : UInt8} (n : Nat)
    (hlo : lo.toNat ≤ 0x80 + n % 64) (hhi : 0x80 + n % 64 ≤ hi.toNat) (bs : List UInt8) :
    run (.inside need value lo hi) ((0x80 + n % 64).toUInt8 :: bs) =
      if need ≤ 1 then some (Char.ofNat (value * 64 + n % 64)) :: run .idle bs
      else run (.inside (need - 1) (value * 64 + n % 64) 0x80 0xBF) bs := by
  have hin : lo ≤ (0x80 + n % 64).toUInt8 ∧ (0x80 + n % 64).toUInt8 ≤ hi := by
    simp only [UInt8.le_iff_toNat_le, toNat_tail]
    exact ⟨hlo, hhi⟩
  rw [run_cons]
  simp only [feed, hin, and_self, if_true, toNat_tail]
  have hmod : (0x80 + n % 64) % 64 = n % 64 := by omega
  rw [hmod]
  split <;> rfl

/-- A continuation byte after the first one of a character lies in the full range. -/
theorem run_tail {need value : Nat} (n : Nat) (bs : List UInt8) :
    run (.inside need value 0x80 0xBF) ((0x80 + n % 64).toUInt8 :: bs) =
      if need ≤ 1 then some (Char.ofNat (value * 64 + n % 64)) :: run .idle bs
      else run (.inside (need - 1) (value * 64 + n % 64) 0x80 0xBF) bs :=
  run_inside n (by simp only [UInt8.reduceToNat]; omega) (by simp only [UInt8.reduceToNat]; omega) bs

/-- **One character read back.** The bytes of a character, read from the start of a character,
give that character and leave the reader at the start of the next. One case per length; the
first continuation byte of a three- or four-byte character falls in the range its lead byte
allows because the character is neither overlong, nor a surrogate, nor above U+10FFFF. -/
theorem run_encodeChar (c : Char) (bs : List UInt8) :
    run .idle (encodeChar c ++ bs) = some c :: run .idle bs := by
  have hr := toNat_range c
  have hc : Char.ofNat c.toNat = c := Char.ofNat_toNat c
  unfold encodeChar
  dsimp only
  split
  · next h1 =>
    have hb : c.toNat.toUInt8.toNat = c.toNat := toNat_toUInt8 (by omega)
    have hlt : c.toNat.toUInt8 < 0x80 := by
      rw [UInt8.lt_iff_toNat_lt, hb]
      exact h1
    rw [List.singleton_append, run_cons]
    simp [feed, start, hlt, hb, hc]
  split
  · next h1 h2 =>
    have hlead := lead?_two (c.toNat / 64 - 2) (by omega)
    rw [show 0xC2 + (c.toNat / 64 - 2) = 0xC0 + c.toNat / 64 by omega,
      show c.toNat / 64 - 2 + 2 = c.toNat / 64 by omega] at hlead
    have hb1 : (0xC0 + c.toNat / 64).toUInt8.toNat = 0xC0 + c.toNat / 64 := toNat_toUInt8 (by omega)
    rw [List.cons_append, List.singleton_append, run_lead (by omega) hlead, run_tail,
      if_pos (Nat.le_refl 1), show c.toNat / 64 * 64 + c.toNat % 64 = c.toNat by omega, hc]
  split
  · next h1 h2 h3 =>
    have hlead := lead?_three (c.toNat / 4096) (by omega)
    have hb1 : (0xE0 + c.toNat / 4096).toUInt8.toNat = 0xE0 + c.toNat / 4096 :=
      toNat_toUInt8 (by omega)
    -- after 0xE0 the character is at least U+0800, after 0xED below U+D800
    rw [List.cons_append, List.cons_append, List.singleton_append, run_lead (by omega) hlead,
      run_inside (c.toNat / 64) (by split <;> simp only [UInt8.reduceToNat] <;> omega)
        (by split <;> simp only [UInt8.reduceToNat] <;> omega),
      if_neg (by omega), run_tail, if_pos (by omega),
      show (c.toNat / 4096 * 64 + c.toNat / 64 % 64) * 64 + c.toNat % 64 = c.toNat by omega, hc]
  · next h1 h2 h3 =>
    have hlead := lead?_four (c.toNat / 262144) (by omega)
    have hb1 : (0xF0 + c.toNat / 262144).toUInt8.toNat = 0xF0 + c.toNat / 262144 :=
      toNat_toUInt8 (by omega)
    -- after 0xF0 the character is at least U+10000, after 0xF4 at most U+10FFFF
    rw [List.cons_append, List.cons_append, List.cons_append, List.singleton_append,
      run_lead (by omega) hlead,
      run_inside (c.toNat / 4096) (by split <;> simp only [UInt8.reduceToNat] <;> omega)
        (by split <;> simp only [UInt8.reduceToNat] <;> omega),
      if_neg (by omega), run_tail, if_neg (by omega), run_tail, if_pos (by omega),
      show ((c.toNat / 262144 * 64 + c.toNat / 4096 % 64) * 64 + c.toNat / 64 % 64) * 64 +
        c.toNat % 64 = c.toNat by omega, hc]

/-! ## A text read back -/

/-- **A text read back.** The bytes of a text read as its characters, with no gap. -/
theorem units_encode (cs : List Char) : units (encode cs) = cs.map some := by
  induction cs with
  | nil => rfl
  | cons c cs ih => rw [units, encode_cons, run_encodeChar, ← units, ih, List.map_cons]

theorem decode?_encode (cs : List Char) : decode? (encode cs) = some cs := by
  rw [decode?, units_encode, List.mapM_map]
  -- reading each unit back through `id ∘ some` is the pure map
  have h := List.mapM_pure (m := Option) (l := cs) (f := id)
  rw [List.map_id] at h
  exact h

theorem decodeLossy_encode (cs : List Char) : decodeLossy (encode cs) = cs := by
  simp [decodeLossy, units_encode, Function.comp_def]

/-! ## Which bytes a text writes -/

/-- Every byte a character writes is the character itself, when it is below 0x80, or at least
0x80. -/
theorem mem_encodeChar {c : Char} {b : UInt8} (hb : b ∈ encodeChar c) :
    (c.toNat < 0x80 ∧ b.toNat = c.toNat) ∨ 0x80 ≤ b.toNat := by
  have hr := toNat_range c
  unfold encodeChar at hb
  dsimp only at hb
  split at hb
  · next h =>
    rw [List.mem_singleton] at hb
    subst hb
    exact .inl ⟨h, toNat_toUInt8 (by omega)⟩
  · right
    -- each byte of a longer sequence is a lead byte or a continuation byte
    split at hb
    · simp only [List.mem_cons, List.not_mem_nil, or_false] at hb
      rcases hb with rfl | rfl
      · rw [toNat_toUInt8 (by omega)]; omega
      · rw [toNat_tail]; omega
    split at hb
    · simp only [List.mem_cons, List.not_mem_nil, or_false] at hb
      rcases hb with rfl | rfl | rfl
      · rw [toNat_toUInt8 (by omega)]; omega
      · rw [toNat_tail]; omega
      · rw [toNat_tail]; omega
    · simp only [List.mem_cons, List.not_mem_nil, or_false] at hb
      rcases hb with rfl | rfl | rfl | rfl
      · rw [toNat_toUInt8 (by omega)]; omega
      · rw [toNat_tail]; omega
      · rw [toNat_tail]; omega
      · rw [toNat_tail]; omega

/-- **A byte below 0x80 is a character of its own.** Such a byte among a text's bytes is one of
the text's characters. -/
theorem mem_encode {cs : List Char} {b : UInt8} (hb : b ∈ encode cs) (hlt : b.toNat < 0x80) :
    ∃ c ∈ cs, c.toNat = b.toNat := by
  obtain ⟨c, hc, hbc⟩ := List.mem_flatMap.1 hb
  rcases mem_encodeChar hbc with ⟨-, h⟩ | h
  · exact ⟨c, hc, h.symm⟩
  · omega

/-- The first byte of a text's bytes is below 0x80 only when it is the text's first
character. -/
theorem head?_encode {c : Char} {cs : List Char} {b : UInt8}
    (h : (encode (c :: cs)).head? = some b) (hlt : b.toNat < 0x80) : c.toNat = b.toNat := by
  have hne : encodeChar c ≠ [] := by
    rw [← List.length_pos_iff, length_encodeChar]
    exact Char.utf8Size_pos c
  obtain ⟨b₀, bs, he⟩ := List.exists_cons_of_ne_nil hne
  rw [encode_cons, he, List.cons_append, List.head?_cons, Option.some.injEq] at h
  subst h
  rcases mem_encodeChar (he ▸ List.mem_cons_self ..) with ⟨-, hb⟩ | hb
  · exact hb.symm
  · omega

end ChatHub.Text.Utf8
