import ChatHub.Proofs.FrameRoundTrip
import ChatHub.Proofs.Utf8Strict
/-!
# ChatHub — what the binary decoder answers

`FrameRoundTrip` reads a written frame back. This module goes the other way and says what the
connection's decoder answers to any bytes at all, and how its one flag evolves over a run of
calls:

* **`Record.decode_eq_some_iff`** — bytes read as a message exactly when they start with its
  record, each reader of a field taking back exactly the bytes its writer writes
  (`readLittle_eq_some`, `readText_eq_some`, `readTerminal_eq_some`);
* **`Frame.payload_eq_ok_iff`** — the payload of a frame is what the frame carries
  (`Frame.Carries`): the version byte, a length of at most `maxPayload`, that many bytes;
* **`decoder_answers`** — the decoder answers a frame or a bare payload with the message its
  record spells, stays on with no answer for blank bytes, and turns off for good on anything
  else.

Blank bytes are no input at all: they neither answer nor change the decoder, whatever its state.
-/

namespace ChatHub

/-! ## Wire numbers of commands and terminals -/

theorem Command.index_of_ofIndex? {n : Nat} {c : Command} (h : Command.ofIndex? n = some c) :
    c.index = n := by
  unfold Command.ofIndex? at h
  split at h <;> cases h <;> rfl

theorem Terminal.index_of_ofIndex? {n : Nat} {t : Terminal} (h : Terminal.ofIndex? n = some t) :
    t.index = n := by
  unfold Terminal.ofIndex? at h
  split at h <;> cases h <;> rfl

end ChatHub

namespace ChatHub.Wire

open Text

/-! ## Numbers read back -/

theorem valueLittle_cons (b : UInt8) (bs : List UInt8) :
    valueLittle (b :: bs) = b.toNat + 256 * valueLittle bs := rfl

/-- Bytes are the `k` bytes of their own value. -/
theorem littleEndian_valueLittle (bs : List UInt8) :
    littleEndian bs.length (valueLittle bs) = bs := by
  induction bs with
  | nil => rfl
  | cons b bs ih =>
    have hb : (b.toNat + 256 * valueLittle bs) % 256 = b.toNat := by
      have := b.toNat_lt; omega
    have hq : (b.toNat + 256 * valueLittle bs) / 256 = valueLittle bs := by
      have := b.toNat_lt; omega
    rw [List.length_cons, littleEndian, valueLittle_cons, hb, hq, ih, Utf8.toUInt8_eq rfl]

theorem valueLittle_lt (bs : List UInt8) : valueLittle bs < capacity bs.length := by
  induction bs with
  | nil => simp [valueLittle, capacity]
  | cons b bs ih =>
    rw [valueLittle_cons, List.length_cons, capacity]
    have := b.toNat_lt
    omega

/-- A number read in `k` bytes is below `capacity k`, and the bytes were its `k` bytes. -/
theorem readLittle_eq_some {k n : Nat} {bs rest : List UInt8}
    (h : readLittle k bs = some (n, rest)) : n < capacity k ∧ bs = littleEndian k n ++ rest := by
  unfold readLittle at h
  split at h
  · cases h
  · next hlen =>
    simp only [Option.some.injEq, Prod.mk.injEq] at h
    obtain ⟨rfl, rfl⟩ := h
    have hk : (bs.take k).length = k := List.length_take_of_le (by omega)
    have hlt := valueLittle_lt (bs.take k)
    have hbytes := littleEndian_valueLittle (bs.take k)
    rw [hk] at hlt hbytes
    rw [hbytes, List.take_append_drop]
    exact ⟨hlt, rfl⟩

theorem bigEndian_valueBig (bs : List UInt8) : bigEndian bs.length (valueBig bs) = bs := by
  rw [bigEndian, valueBig, ← List.length_reverse, littleEndian_valueLittle, List.reverse_reverse]

/-! ## A record read back -/

/-- A text field read off the bytes was the field of that text, and the text fits its length. -/
theorem readText_eq_some {bs rest : List UInt8} {s : String}
    (h : readText bs = some (s, rest)) :
    s.utf8ByteSize < capacity 8 ∧ bs = textField s ++ rest := by
  obtain ⟨⟨n, r⟩, hn⟩ : ∃ p, readLittle 8 bs = some p := by
    cases hr : readLittle 8 bs with
    | none => simp [readText, hr] at h
    | some p => exact ⟨p, rfl⟩
  simp only [readText, hn, Option.bind_eq_bind, Option.bind_some] at h
  obtain ⟨hcap, rfl⟩ := readLittle_eq_some hn
  by_cases hlen : r.length < n
  · rw [if_pos hlen] at h
    cases h
  · rw [if_neg hlen, Option.bind_eq_some_iff] at h
    obtain ⟨cs, hcs, h⟩ := h
    simp only [Option.pure_def, Option.some.injEq, Prod.mk.injEq] at h
    obtain ⟨rfl, rfl⟩ := h
    -- the field's bytes are the text's own bytes, as many as its length says
    have hstr : Utf8.encodeString (String.ofList cs) = r.take n := by
      rw [Utf8.encodeString, String.toList_ofList, Utf8.decode?_eq_some_iff.1 hcs]
    have hn' : (r.take n).length = n := List.length_take_of_le (by omega)
    refine ⟨?_, ?_⟩
    · rw [← Utf8.length_encodeString, hstr, hn']
      exact hcap
    · rw [textField, hstr, hn', List.append_assoc, List.take_append_drop]

theorem readTerminal_eq_some {bs : List UInt8} {t : Option Terminal}
    (h : readTerminal bs = some t) : ∃ rest, bs = terminalField t ++ rest := by
  unfold readTerminal at h
  split at h
  · next rest =>
    cases h
    exact ⟨rest, rfl⟩
  · next rest =>
    simp only [Option.bind_eq_bind, Option.bind_eq_some_iff] at h
    obtain ⟨⟨i, r⟩, hi, t', ht', h⟩ := h
    simp only [Option.pure_def, Option.some.injEq] at h
    subst h
    obtain ⟨-, rfl⟩ := readLittle_eq_some hi
    refine ⟨r, ?_⟩
    rw [terminalField, Terminal.index_of_ofIndex? ht']
    rfl
  · cases h


/-- **A record read is a record written.** Bytes that read as a message start with that message's
record, whose texts fit their lengths. -/
theorem Record.eq_encode_of_decode {bs : List UInt8} {m : Message} (h : Record.decode bs = some m) :
    Record.Fits m ∧ ∃ rest, bs = Record.encode m ++ rest := by
  simp only [Record.decode, Option.bind_eq_bind, Option.bind_eq_some_iff, Option.pure_def,
    Option.some.injEq] at h
  obtain ⟨⟨ci, r₁⟩, h₁, c, hc, ⟨time, r₂⟩, h₂, ⟨online, r₃⟩, h₃, ⟨sender, r₄⟩, h₄,
    ⟨receiver, r₅⟩, h₅, ⟨content, r₆⟩, h₆, t, ht, rfl⟩ := h
  obtain ⟨-, rfl⟩ := readLittle_eq_some h₁
  obtain ⟨htime, rfl⟩ := readLittle_eq_some h₂
  obtain ⟨honline, rfl⟩ := readLittle_eq_some h₃
  obtain ⟨hs, rfl⟩ := readText_eq_some h₄
  obtain ⟨hr, rfl⟩ := readText_eq_some h₅
  obtain ⟨hc', rfl⟩ := readText_eq_some h₆
  obtain ⟨rest, rfl⟩ := readTerminal_eq_some ht
  -- the numbers read fit their words, so the words give them back
  have ht' : (UInt64.ofNat time).toNat = time := UInt64.toNat_ofNat_of_lt' htime
  have ho' : (UInt32.ofNat online).toNat = online := UInt32.toNat_ofNat_of_lt' honline
  refine ⟨⟨hs, hr, hc'⟩, rest, ?_⟩
  simp only [Record.encode, Command.index_of_ofIndex? hc, ht', ho', List.append_assoc]

/-- **The records a reader takes.** Bytes read as a message exactly when they start with its
record and its texts fit their lengths. -/
theorem Record.decode_eq_some_iff {bs : List UInt8} {m : Message} :
    Record.decode bs = some m ↔ Record.Fits m ∧ ∃ rest, bs = Record.encode m ++ rest := by
  constructor
  · exact Record.eq_encode_of_decode
  · rintro ⟨hfit, rest, rfl⟩
    exact Record.decode_encode_of_fits hfit rest

/-- A record within a frame's limit fits its lengths. -/
theorem Record.fits_of_le {m : Message} {rest : List UInt8}
    (h : (Record.encode m ++ rest).length ≤ maxPayload) : Record.Fits m := by
  rw [List.length_append, Record.length_encode, Record.size] at h
  have hcap : maxPayload < capacity 8 := by decide
  exact ⟨by omega, by omega, by omega⟩

/-! ## Frames -/

/-- The bytes start with a frame that carries `payload`: the version byte, the payload's length
in four bytes most significant first, at most `maxPayload`, and the payload. What follows is not
read. -/
def Frame.Carries (f payload : List UInt8) : Prop :=
  payload.length ≤ maxPayload ∧ ∃ x, f = frameVersion :: bigEndian 4 payload.length ++ payload ++ x

/-- **The payload of a frame is what it carries.** -/
theorem Frame.payload_eq_ok_iff {f p : List UInt8} : Frame.payload f = .ok p ↔ Frame.Carries f p := by
  constructor
  · intro h
    unfold Frame.payload at h
    split at h
    · next v a b c e rest =>
      split at h
      · cases h
      · next hv =>
        dsimp only at h
        split at h
        · cases h
        · next hmax =>
          split at h
          · cases h
          · next hlen =>
            cases h
            have hp : (rest.take (valueBig [a, b, c, e])).length = valueBig [a, b, c, e] :=
              List.length_take_of_le (by omega)
            refine ⟨by omega, rest.drop (valueBig [a, b, c, e]), ?_⟩
            -- the length field is the big-endian form of the length it holds
            have hhead : bigEndian 4 (valueBig [a, b, c, e]) = [a, b, c, e] :=
              bigEndian_valueBig [a, b, c, e]
            rw [hp, hhead, not_not.1 hv, List.append_assoc, List.take_append_drop]
            rfl
    · cases h
  · rintro ⟨hp, x, rfl⟩
    exact Frame.payload_frame hp x

theorem Frame.Carries.unique {f p q : List UInt8} (hp : Frame.Carries f p) (hq : Frame.Carries f q) :
    p = q := by
  have h := (Frame.payload_eq_ok_iff.2 hp).symm.trans (Frame.payload_eq_ok_iff.2 hq)
  exact Except.ok.inj h

/-- A frame is never blank: it starts with the version byte. -/
theorem Frame.Carries.not_blank {f p : List UInt8} (h : Frame.Carries f p) :
    isBlankBytes f = false := by
  obtain ⟨-, x, rfl⟩ := h
  exact isBlankBytes_cons (by decide) _

namespace Decoder

/-! ## One call -/

theorem disabled_ne {d : Decoder} (hd : d.enabled = true) : disabled ≠ d := by
  rintro rfl
  cases hd

theorem readPayload_of_disabled {d : Decoder} (hd : d.enabled = false) (p : List UInt8) :
    d.readPayload p = (none, d) := by
  simp [readPayload, hd]

theorem readFrame_of_disabled {d : Decoder} (hd : d.enabled = false) (f : List UInt8) :
    d.readFrame f = (none, d) := by
  simp [readFrame, hd]

theorem readPayload_of_blank (d : Decoder) {p : List UInt8} (h : isBlankBytes p = true) :
    d.readPayload p = (none, d) := by
  simp [readPayload, h]

theorem readFrame_of_blank (d : Decoder) {f : List UInt8} (h : isBlankBytes f = true) :
    d.readFrame f = (none, d) := by
  simp [readFrame, h]

section Enabled

variable {d : Decoder} (hd : d.enabled = true)
include hd

/-- An enabled decoder reads a payload that is not blank as the message whose record it starts
with. -/
theorem readPayload_eq_some_iff {p : List UInt8} {m : Message} :
    d.readPayload p = (some m, d) ↔
      isBlankBytes p = false ∧ Record.Fits m ∧ ∃ rest, p = Record.encode m ++ rest := by
  rw [← Record.decode_eq_some_iff]
  unfold readPayload
  cases hb : isBlankBytes p <;> cases hdec : Record.decode p <;> simp [hd]

/-- An enabled decoder stays on with no answer exactly for a blank payload. -/
theorem readPayload_eq_keep_iff {p : List UInt8} :
    d.readPayload p = (none, d) ↔ isBlankBytes p = true := by
  unfold readPayload
  cases hb : isBlankBytes p <;> cases hdec : Record.decode p <;> simp [hd, disabled_ne hd]

/-- An enabled decoder turns off exactly on a payload that is neither blank nor a record. -/
theorem readPayload_eq_disabled_iff {p : List UInt8} :
    d.readPayload p = (none, disabled) ↔
      isBlankBytes p = false ∧ ∀ m, ¬ (Record.Fits m ∧ ∃ rest, p = Record.encode m ++ rest) := by
  simp only [← Record.decode_eq_some_iff, ← Option.eq_none_iff_forall_ne_some]
  unfold readPayload
  cases hb : isBlankBytes p <;> cases hdec : Record.decode p <;>
    simp [hd, (disabled_ne hd).symm]

/-- An enabled decoder reads a frame as the payload it carries. -/
theorem readFrame_of_carries {f p : List UInt8} (h : Frame.Carries f p) :
    d.readFrame f = d.readPayload p := by
  simp [readFrame, hd, h.not_blank, Frame.payload_eq_ok_iff.2 h]

/-- An enabled decoder turns off on bytes that are neither blank nor a whole frame. -/
theorem readFrame_of_not_carries {f : List UInt8} (hb : isBlankBytes f = false)
    (h : ∀ p, ¬ Frame.Carries f p) : d.readFrame f = (none, disabled) := by
  unfold readFrame
  rw [hd, hb]
  cases hp : Frame.payload f with
  | error => rfl
  | ok p => exact absurd (Frame.payload_eq_ok_iff.1 hp) (h p)

theorem readFrame_eq_some_iff {f : List UInt8} {m : Message} :
    d.readFrame f = (some m, d) ↔
      ∃ p, Frame.Carries f p ∧ isBlankBytes p = false ∧ ∃ rest, p = Record.encode m ++ rest := by
  by_cases hc : ∃ p, Frame.Carries f p
  · obtain ⟨p, hp⟩ := hc
    rw [readFrame_of_carries hd hp, readPayload_eq_some_iff hd]
    constructor
    · rintro ⟨hb, -, rest, hrest⟩
      exact ⟨p, hp, hb, rest, hrest⟩
    · rintro ⟨q, hq, hb, rest, rfl⟩
      -- a frame carries one payload, and a payload within the limit fits its lengths
      obtain rfl := hp.unique hq
      exact ⟨hb, Record.fits_of_le hp.1, rest, rfl⟩
  · have hrhs : ¬ ∃ p, Frame.Carries f p ∧ isBlankBytes p = false ∧
        ∃ rest, p = Record.encode m ++ rest := fun ⟨p, hp, _⟩ => hc ⟨p, hp⟩
    simp only [hrhs, iff_false]
    cases hb : isBlankBytes f
    · rw [readFrame_of_not_carries hd hb fun p hp => hc ⟨p, hp⟩]
      simp
    · rw [readFrame_of_blank d hb]
      simp

theorem readFrame_eq_keep_iff {f : List UInt8} :
    d.readFrame f = (none, d) ↔
      isBlankBytes f = true ∨ ∃ p, Frame.Carries f p ∧ isBlankBytes p = true := by
  by_cases hc : ∃ p, Frame.Carries f p
  · obtain ⟨p, hp⟩ := hc
    rw [readFrame_of_carries hd hp, readPayload_eq_keep_iff hd, hp.not_blank]
    constructor
    · intro hb
      exact .inr ⟨p, hp, hb⟩
    · rintro (h | ⟨q, hq, hb⟩)
      · cases h
      · rwa [hp.unique hq]
  · cases hb : isBlankBytes f
    · rw [readFrame_of_not_carries hd hb fun p hp => hc ⟨p, hp⟩]
      simp only [Prod.mk.injEq, true_and]
      exact ⟨fun h => absurd h (disabled_ne hd),
        fun h => h.elim (fun h => by cases h) fun ⟨p, hp, _⟩ => absurd ⟨p, hp⟩ hc⟩
    · simp [readFrame_of_blank d hb]

theorem readFrame_eq_disabled_iff {f : List UInt8} :
    d.readFrame f = (none, disabled) ↔
      isBlankBytes f = false ∧ ∀ p, Frame.Carries f p →
        isBlankBytes p = false ∧ ∀ m rest, p ≠ Record.encode m ++ rest := by
  by_cases hc : ∃ p, Frame.Carries f p
  · obtain ⟨p, hp⟩ := hc
    rw [readFrame_of_carries hd hp, readPayload_eq_disabled_iff hd, hp.not_blank]
    constructor
    · rintro ⟨hb, hnot⟩
      refine ⟨rfl, fun q hq => ?_⟩
      obtain rfl := hp.unique hq
      exact ⟨hb, fun m rest he => hnot m ⟨Record.fits_of_le (he ▸ hp.1), rest, he⟩⟩
    · rintro ⟨-, h⟩
      obtain ⟨hb, hnot⟩ := h p hp
      exact ⟨hb, fun m ⟨_, rest, he⟩ => hnot m rest he⟩
  · cases hb : isBlankBytes f
    · rw [readFrame_of_not_carries hd hb fun p hp => hc ⟨p, hp⟩]
      simp only [true_and, true_iff]
      exact fun p hp => absurd ⟨p, hp⟩ hc
    · simp [readFrame_of_blank d hb, (disabled_ne hd).symm]

end Enabled

/-! ## Runs of calls -/

/-- A call on a binary decoder: a whole frame, or a bare payload. -/
inductive Call where
  | frame (bytes : List UInt8)
  | payload (bytes : List UInt8)
  deriving DecidableEq, Repr

/-- The bytes a call hands over. -/
def Call.bytes : Call → List UInt8
  | .frame bs | .payload bs => bs

/-- The answer of a call and the decoder after it. -/
def call (d : Decoder) : Call → Option Message × Decoder
  | .frame f => d.readFrame f
  | .payload p => d.readPayload p

/-- The answers of calls made in turn on one decoder, and the decoder after them. -/
def run (d : Decoder) : List Call → List (Option Message) × Decoder
  | [] => ([], d)
  | c :: cs => ((d.call c).1 :: ((d.call c).2.run cs).1, ((d.call c).2.run cs).2)

theorem call_of_disabled {d : Decoder} (hd : d.enabled = false) (c : Call) : d.call c = (none, d) := by
  cases c with
  | frame f => exact readFrame_of_disabled hd f
  | payload p => exact readPayload_of_disabled hd p

theorem call_of_blank (d : Decoder) {c : Call} (h : isBlankBytes c.bytes = true) :
    d.call c = (none, d) := by
  cases c with
  | frame f => exact readFrame_of_blank d h
  | payload p => exact readPayload_of_blank d h

/-- A run over two lists of calls is the run over the first, then from where it left off. -/
theorem run_append (d : Decoder) (cs cs' : List Call) :
    d.run (cs ++ cs') = ((d.run cs).1 ++ ((d.run cs).2.run cs').1, ((d.run cs).2.run cs').2) := by
  induction cs generalizing d with
  | nil => rfl
  | cons c cs ih => simp [run, ih]

/-- A decoder that is off answers nothing to any run of calls, and stays off. -/
theorem run_of_disabled {d : Decoder} (hd : d.enabled = false) (cs : List Call) :
    d.run cs = (cs.map fun _ => none, d) := by
  induction cs with
  | nil => rfl
  | cons c cs ih => simp [run, call_of_disabled hd, ih]

end Decoder

/-- **What the binary decoder answers.** Over any run of calls on one decoder, once the decoder is
off it stays off and every later call answers nothing. A call on blank bytes answers nothing and
leaves any decoder as it was. A decoder that is on answers a frame with a message exactly when
the frame carries a payload (the version byte, a length of at most `maxPayload` most
significant byte first, and that many bytes) that is not blank and starts with the message's
record, and stays on; it stays on with no answer exactly when the frame is blank or carries a
blank payload; in every other case it answers nothing and turns off. A bare payload is answered
the same way: a message when it is not blank and starts with that message's record, nothing and
on when it is blank, nothing and off otherwise. -/
theorem decoder_answers :
    (∀ (d : Decoder) (cs cs' : List Decoder.Call), (d.run cs).2.enabled = false →
      d.run (cs ++ cs') = ((d.run cs).1 ++ cs'.map fun _ => none, (d.run cs).2)) ∧
    (∀ (d : Decoder) (c : Decoder.Call), isBlankBytes c.bytes = true → d.call c = (none, d)) ∧
    (∀ d : Decoder, d.enabled = true → ∀ (f : List UInt8) (m : Message),
      (d.readFrame f = (some m, d) ↔
        ∃ p, Frame.Carries f p ∧ isBlankBytes p = false ∧ ∃ rest, p = Record.encode m ++ rest) ∧
      (d.readFrame f = (none, d) ↔
        isBlankBytes f = true ∨ ∃ p, Frame.Carries f p ∧ isBlankBytes p = true) ∧
      (d.readFrame f = (none, Decoder.disabled) ↔
        isBlankBytes f = false ∧ ∀ p, Frame.Carries f p →
          isBlankBytes p = false ∧ ∀ m' rest, p ≠ Record.encode m' ++ rest)) ∧
    (∀ d : Decoder, d.enabled = true → ∀ (p : List UInt8) (m : Message),
      (d.readPayload p = (some m, d) ↔
        isBlankBytes p = false ∧ Record.Fits m ∧ ∃ rest, p = Record.encode m ++ rest) ∧
      (d.readPayload p = (none, d) ↔ isBlankBytes p = true) ∧
      (d.readPayload p = (none, Decoder.disabled) ↔
        isBlankBytes p = false ∧ ∀ m', ¬ (Record.Fits m' ∧ ∃ rest, p = Record.encode m' ++ rest))) := by
  refine ⟨fun d cs cs' hoff => ?_, fun d c h => Decoder.call_of_blank d h, fun d hd f m => ?_,
    fun d hd p m => ?_⟩
  · rw [Decoder.run_append, Decoder.run_of_disabled hoff]
  · exact ⟨Decoder.readFrame_eq_some_iff hd, Decoder.readFrame_eq_keep_iff hd,
      Decoder.readFrame_eq_disabled_iff hd⟩
  · exact ⟨Decoder.readPayload_eq_some_iff hd, Decoder.readPayload_eq_keep_iff hd,
      Decoder.readPayload_eq_disabled_iff hd⟩

/-- The decoder's own test: nothing and blank bytes leave it on, bytes that are no frame turn it
off, and a frame after that is not read. -/
example :
    ({} : Decoder).run [.frame [], .frame [0x20, 0x0A], .frame [0x6E, 0x6F, 0x74],
      .frame (frameVersion :: bigEndian 4 1 ++ [0])] =
      ([none, none, none, none], Decoder.disabled) := by
  decide

end ChatHub.Wire
