import ChatHub.Proofs.Utf8RoundTrip
/-!
# ChatHub — a strict UTF-8 reading accepts only written text

`Utf8RoundTrip` reads the bytes of a text back as the text. This module proves the converse: a
strict reading succeeds only on bytes that some text writes, so the text is determined by its
bytes and the reader accepts nothing else.

* **`lead?_cases`** — the three rows of the lead-byte table: the bytes that lead a two-, three- or
  four-byte character, the bits each carries and the range allowed for the byte after it;
* **`encodeChar_two`**, **`encodeChar_three`**, **`encodeChar_four`** — a lead byte and
  continuation bytes in those ranges are exactly the bytes of the character they spell;
* **`eq_encode_of_run`** — bytes that read with no gap are the bytes of what they read as;
* **`decode?_eq_some_iff`** — a strict reading gives a text exactly on that text's bytes.
-/

namespace ChatHub.Text.Utf8

/-! ## Numbers and characters -/

/-- A number outside the surrogates and below U+110000 is the number of its character. -/
theorem toNat_ofNat_of_valid {v : Nat} (h : v < 0xD800 ∨ (0xE000 ≤ v ∧ v < 0x110000)) :
    (Char.ofNat v).toNat = v := by
  have hv : v.isValidChar := by
    simp only [Nat.isValidChar]; omega
  have hof : Char.ofNat v = Char.ofNatAux v hv := dif_pos hv
  rw [hof]
  rfl

theorem toUInt8_eq {k : Nat} {b : UInt8} (h : k = b.toNat) : k.toUInt8 = b := by
  apply UInt8.toNat.inj
  rw [toNat_toUInt8 (h ▸ b.toNat_lt), h]

/-! ## The lead-byte table, read backwards -/

/-- **What a lead byte can be.** A byte that leads a character is one of three rows: 0xC2 to 0xDF
with five bits and one byte to follow, 0xE0 to 0xEF with four bits and two, 0xF0 to 0xF4 with
three bits and three; the first byte after it lies in the range its row allows. -/
theorem lead?_cases {b : UInt8} {need value : Nat} {lo hi : UInt8}
    (h : lead? b = some (need, value, lo, hi)) :
    (need = 1 ∧ 0xC2 ≤ b.toNat ∧ b.toNat ≤ 0xDF ∧ value = b.toNat % 32 ∧
      lo.toNat = 0x80 ∧ hi.toNat = 0xBF) ∨
    (need = 2 ∧ 0xE0 ≤ b.toNat ∧ b.toNat ≤ 0xEF ∧ value = b.toNat % 16 ∧
      lo.toNat = (if b.toNat = 0xE0 then 0xA0 else 0x80) ∧
      hi.toNat = (if b.toNat = 0xED then 0x9F else 0xBF)) ∨
    (need = 3 ∧ 0xF0 ≤ b.toNat ∧ b.toNat ≤ 0xF4 ∧ value = b.toNat % 8 ∧
      lo.toNat = (if b.toNat = 0xF0 then 0x90 else 0x80) ∧
      hi.toNat = (if b.toNat = 0xF4 then 0x8F else 0xBF)) := by
  unfold lead? at h
  simp only [UInt8.le_iff_toNat_le, ← UInt8.toNat_inj, UInt8.reduceToNat] at h
  -- one branch per row of the table; each row lands in the disjunct of its length
  split_ifs at h <;> cases h <;> grind

/-! ## One character from its bytes -/

/-- A byte below 0x80 is the character of that number. -/
theorem encodeChar_one {b : UInt8} (hb : b.toNat < 0x80) :
    encodeChar (Char.ofNat b.toNat) = [b] := by
  have hv := toNat_ofNat_of_valid (v := b.toNat) (by omega)
  unfold encodeChar
  simp only [hv, if_pos hb, toUInt8_eq rfl]

/-- A lead byte 0xC2 to 0xDF and a continuation byte are the character of their eleven bits. -/
theorem encodeChar_two {b b₁ : UInt8} (hb : 0xC2 ≤ b.toNat ∧ b.toNat ≤ 0xDF)
    (h₁ : 0x80 ≤ b₁.toNat ∧ b₁.toNat ≤ 0xBF) :
    encodeChar (Char.ofNat (b.toNat % 32 * 64 + b₁.toNat % 64)) = [b, b₁] := by
  have hv := toNat_ofNat_of_valid (v := b.toNat % 32 * 64 + b₁.toNat % 64) (by omega)
  unfold encodeChar
  simp only [hv, if_neg (show ¬ b.toNat % 32 * 64 + b₁.toNat % 64 < 0x80 by omega),
    if_pos (show b.toNat % 32 * 64 + b₁.toNat % 64 < 0x800 by omega), List.cons.injEq, and_true]
  exact ⟨toUInt8_eq (by omega), toUInt8_eq (by omega)⟩

/-- A lead byte 0xE0 to 0xEF and two continuation bytes, the first in the range the lead byte
allows, are the character of their sixteen bits: at least U+0800 after 0xE0, below the
surrogates after 0xED. -/
theorem encodeChar_three {b b₁ b₂ : UInt8} (hb : 0xE0 ≤ b.toNat ∧ b.toNat ≤ 0xEF)
    (h₁ : (if b.toNat = 0xE0 then 0xA0 else 0x80) ≤ b₁.toNat ∧
      b₁.toNat ≤ (if b.toNat = 0xED then 0x9F else 0xBF))
    (h₂ : 0x80 ≤ b₂.toNat ∧ b₂.toNat ≤ 0xBF) :
    encodeChar (Char.ofNat ((b.toNat % 16 * 64 + b₁.toNat % 64) * 64 + b₂.toNat % 64)) =
      [b, b₁, b₂] := by
  have hr : 0x800 ≤ (b.toNat % 16 * 64 + b₁.toNat % 64) * 64 + b₂.toNat % 64 ∧
      (b.toNat % 16 * 64 + b₁.toNat % 64) * 64 + b₂.toNat % 64 < 0x10000 ∧
      ((b.toNat % 16 * 64 + b₁.toNat % 64) * 64 + b₂.toNat % 64 < 0xD800 ∨
        0xE000 ≤ (b.toNat % 16 * 64 + b₁.toNat % 64) * 64 + b₂.toNat % 64) := by
    split_ifs at h₁ <;> omega
  have h₁' : 0x80 ≤ b₁.toNat ∧ b₁.toNat ≤ 0xBF := by split_ifs at h₁ <;> omega
  have hv := toNat_ofNat_of_valid
    (v := (b.toNat % 16 * 64 + b₁.toNat % 64) * 64 + b₂.toNat % 64) (by omega)
  unfold encodeChar
  simp only [hv, if_neg (show ¬ (b.toNat % 16 * 64 + b₁.toNat % 64) * 64 + b₂.toNat % 64 < 0x80 by omega),
    if_neg (show ¬ (b.toNat % 16 * 64 + b₁.toNat % 64) * 64 + b₂.toNat % 64 < 0x800 by omega),
    if_pos hr.2.1, List.cons.injEq, and_true]
  exact ⟨toUInt8_eq (by omega), toUInt8_eq (by omega), toUInt8_eq (by omega)⟩

/-- A lead byte 0xF0 to 0xF4 and three continuation bytes, the first in the range the lead byte
allows, are the character of their twenty-one bits: at least U+10000 after 0xF0, at most
U+10FFFF after 0xF4. -/
theorem encodeChar_four {b b₁ b₂ b₃ : UInt8} (hb : 0xF0 ≤ b.toNat ∧ b.toNat ≤ 0xF4)
    (h₁ : (if b.toNat = 0xF0 then 0x90 else 0x80) ≤ b₁.toNat ∧
      b₁.toNat ≤ (if b.toNat = 0xF4 then 0x8F else 0xBF))
    (h₂ : 0x80 ≤ b₂.toNat ∧ b₂.toNat ≤ 0xBF) (h₃ : 0x80 ≤ b₃.toNat ∧ b₃.toNat ≤ 0xBF) :
    encodeChar (Char.ofNat (((b.toNat % 8 * 64 + b₁.toNat % 64) * 64 + b₂.toNat % 64) * 64 +
      b₃.toNat % 64)) = [b, b₁, b₂, b₃] := by
  have hr : 0x10000 ≤ ((b.toNat % 8 * 64 + b₁.toNat % 64) * 64 + b₂.toNat % 64) * 64 +
        b₃.toNat % 64 ∧
      ((b.toNat % 8 * 64 + b₁.toNat % 64) * 64 + b₂.toNat % 64) * 64 + b₃.toNat % 64 <
        0x110000 := by
    split_ifs at h₁ <;> omega
  have h₁' : 0x80 ≤ b₁.toNat ∧ b₁.toNat ≤ 0xBF := by split_ifs at h₁ <;> omega
  have hv := toNat_ofNat_of_valid (v := ((b.toNat % 8 * 64 + b₁.toNat % 64) * 64 +
    b₂.toNat % 64) * 64 + b₃.toNat % 64) (by omega)
  unfold encodeChar
  simp only [hv, if_neg (show ¬ ((b.toNat % 8 * 64 + b₁.toNat % 64) * 64 + b₂.toNat % 64) * 64 +
      b₃.toNat % 64 < 0x80 by omega),
    if_neg (show ¬ ((b.toNat % 8 * 64 + b₁.toNat % 64) * 64 + b₂.toNat % 64) * 64 +
      b₃.toNat % 64 < 0x800 by omega),
    if_neg (show ¬ ((b.toNat % 8 * 64 + b₁.toNat % 64) * 64 + b₂.toNat % 64) * 64 +
      b₃.toNat % 64 < 0x10000 by omega), List.cons.injEq, and_true]
  exact ⟨toUInt8_eq (by omega), toUInt8_eq (by omega), toUInt8_eq (by omega),
    toUInt8_eq (by omega)⟩

/-! ## A whole text -/

theorem none_cons_ne_map_some {cs : List Char} {us : List (Option Char)} :
    none :: us ≠ cs.map some := by
  cases cs <;> simp

/-- **Inside a character, with no gap to come.** The next byte is there and in range; the last
byte of the character gives it, any other moves on to the next byte. -/
theorem run_inside_eq_map_some {need value : Nat} {lo hi : UInt8} {bs : List UInt8}
    {cs : List Char} (h : run (.inside need value lo hi) bs = cs.map some) :
    ∃ b rest, bs = b :: rest ∧ lo.toNat ≤ b.toNat ∧ b.toNat ≤ hi.toNat ∧
      if need ≤ 1 then
        ∃ cs', cs = Char.ofNat (value * 64 + b.toNat % 64) :: cs' ∧ run .idle rest = cs'.map some
      else run (.inside (need - 1) (value * 64 + b.toNat % 64) 0x80 0xBF) rest = cs.map some := by
  cases bs with
  | nil => exact absurd h (by simpa [run] using (none_cons_ne_map_some : [none] ≠ cs.map some))
  | cons b rest =>
    rw [run_cons] at h
    simp only [feed] at h
    split at h
    · next hin =>
      refine ⟨b, rest, rfl, UInt8.le_iff_toNat_le.1 hin.1, UInt8.le_iff_toNat_le.1 hin.2, ?_⟩
      split at h
      · next hneed =>
        rw [if_pos hneed]
        cases cs with
        | nil => simp at h
        | cons c cs' =>
          simp only [List.singleton_append, List.map_cons, List.cons.injEq, Option.some.injEq] at h
          exact ⟨cs', by rw [h.1], h.2⟩
      · next hneed =>
        rw [if_neg hneed]
        simpa using h
    · -- a byte out of range ends the character as a gap
      exact absurd h (by simpa using none_cons_ne_map_some)

/-- **The reader reads back only what the writer writes.** Bytes that read, from the start of a
character, as characters with no gap are the bytes of those characters. The induction is on the
number of bytes, one character at a time: a byte below 0x80, or a lead byte and the one, two or
three continuation bytes its row of the table asks for. -/
theorem eq_encode_of_run {bs : List UInt8} {cs : List Char} (h : run .idle bs = cs.map some) :
    bs = encode cs := by
  induction hn : bs.length using Nat.strong_induction_on generalizing bs cs with
  | _ n ih =>
  subst hn
  cases bs with
  | nil =>
    cases cs with
    | nil => rfl
    | cons c cs => simp [run] at h
  | cons b rest =>
    rw [run_cons] at h
    by_cases hb : b.toNat < 0x80
    · have hlt : b < 0x80 := UInt8.lt_iff_toNat_lt.2 hb
      cases cs with
      | nil => simp [feed, start, hlt] at h
      | cons c cs =>
        simp only [feed, start, hlt, if_true, List.singleton_append, List.map_cons,
          List.cons.injEq, Option.some.injEq] at h
        obtain ⟨rfl, hrest⟩ := h
        rw [encode_cons, encodeChar_one hb, ih rest.length (by simp only [List.length_cons]; omega) hrest rfl]
        rfl
    · have hlt : ¬ b < 0x80 := fun h' => hb (UInt8.lt_iff_toNat_lt.1 h')
      simp only [feed, start, hlt, if_false] at h
      split at h
      · next need value lo hi hlead =>
        rw [List.nil_append] at h
        rcases lead?_cases hlead with
          ⟨rfl, hb₀, hb₁, rfl, hlo, hhi⟩ | ⟨rfl, hb₀, hb₁, rfl, hlo, hhi⟩ |
          ⟨rfl, hb₀, hb₁, rfl, hlo, hhi⟩
        · -- two bytes
          obtain ⟨c₁, r₁, rfl, hl₁, hh₁, h₁⟩ := run_inside_eq_map_some h
          obtain ⟨cs', rfl, hr₁⟩ := (if_pos (le_refl 1) ▸ h₁ :)
          rw [encode_cons, encodeChar_two ⟨hb₀, hb₁⟩ (by omega),
            ih r₁.length (by simp only [List.length_cons]; omega) hr₁ rfl]
          rfl
        · -- three bytes
          obtain ⟨c₁, r₁, rfl, hl₁, hh₁, h₁⟩ := run_inside_eq_map_some h
          rw [if_neg (by omega)] at h₁
          obtain ⟨c₂, r₂, rfl, hl₂, hh₂, h₂⟩ := run_inside_eq_map_some h₁
          obtain ⟨cs', rfl, hr₂⟩ := (if_pos (le_refl 1) ▸ h₂ :)
          rw [encode_cons, encodeChar_three ⟨hb₀, hb₁⟩ (by rw [← hlo, ← hhi]; exact ⟨hl₁, hh₁⟩)
            (by simp only [UInt8.reduceToNat] at hl₂ hh₂; omega),
            ih r₂.length (by simp only [List.length_cons]; omega) hr₂ rfl]
          rfl
        · -- four bytes
          obtain ⟨c₁, r₁, rfl, hl₁, hh₁, h₁⟩ := run_inside_eq_map_some h
          rw [if_neg (by omega)] at h₁
          obtain ⟨c₂, r₂, rfl, hl₂, hh₂, h₂⟩ := run_inside_eq_map_some h₁
          rw [if_neg (by omega)] at h₂
          obtain ⟨c₃, r₃, rfl, hl₃, hh₃, h₃⟩ := run_inside_eq_map_some h₂
          obtain ⟨cs', rfl, hr₃⟩ := (if_pos (le_refl 1) ▸ h₃ :)
          rw [encode_cons, encodeChar_four ⟨hb₀, hb₁⟩ (by rw [← hlo, ← hhi]; exact ⟨hl₁, hh₁⟩)
            (by simp only [UInt8.reduceToNat] at hl₂ hh₂; omega)
            (by simp only [UInt8.reduceToNat] at hl₃ hh₃; omega),
            ih r₃.length (by simp only [List.length_cons]; omega) hr₃ rfl]
          rfl
      · -- a byte that cannot lead a character is a gap
        exact absurd h (by simpa using none_cons_ne_map_some)

theorem mapM_id_eq_some_iff {us : List (Option Char)} {cs : List Char} :
    us.mapM id = some cs ↔ us = cs.map some := by
  induction us generalizing cs with
  | nil => cases cs <;> simp
  | cons u us ih =>
    cases u with
    | none =>
      simp only [List.mapM_cons, id, Option.bind_eq_bind, Option.bind_none, reduceCtorEq,
        false_iff]
      exact none_cons_ne_map_some
    | some c =>
      cases hm : us.mapM id with
      | none =>
        have hne : ∀ cs' : List Char, us ≠ cs'.map some := fun cs' h => by simp [ih.2 h] at hm
        cases cs <;> simp [List.mapM_cons, hm, hne]
      | some ds =>
        have hds := ih.1 hm
        subst hds
        cases cs <;> simp [List.mapM_cons, hm, List.map_inj_right fun _ _ h => Option.some.inj h]

/-- **A strict reading accepts exactly the bytes of a text**, and gives that text. -/
theorem decode?_eq_some_iff {bs : List UInt8} {cs : List Char} :
    decode? bs = some cs ↔ bs = encode cs := by
  constructor
  · intro h
    exact eq_encode_of_run (mapM_id_eq_some_iff.1 h)
  · rintro rfl
    exact decode?_encode cs

end ChatHub.Text.Utf8
