import ChatHub.Proofs.StreamRoundTrip
import ChatHub.Proofs.DecoderAnswers
/-!
# ChatHub — a console stream read unit by unit

`StreamRoundTrip` reads back what a writer wrote. This module says what a reader does with any
bytes at all, one unit at a time, for a source that ends cleanly and a decoder in any state:

* **`step_whole_frame`** — a frame is read exactly as the connection's decoder reads that same
  frame (`Decoder.readFrame_carries`), with the decoder as the frame leaves it;
* **`step_too_large`**, **`step_short_header`**, **`step_short_payload`** — the three ways a
  frame stops the stream;
* **`step_line`**, **`step_last_line`**, **`step_long_line`** — a line runs through its first line
  feed, a last line may lack one, and a line that fills `lineLimit` bytes without one stops the
  stream;
* **`stream_units`** — the whole table, with reading to the end as successive reads
  (`Reader.reads_drain`) that give at most one item per byte (`Reader.drain_length`).

A unit gives an item or nothing (`Step.ofItem`): a frame its message, a line its text when that
does not trim to nothing (`lineItem`).
-/

namespace ChatHub.Stream

open Wire Text

/-! ## Units as items -/

/-- The step a unit gives: the item it reads, or a skip when it reads none. -/
def Step.ofItem (i? : Option Inbound) (r : Reader) : Step :=
  match i? with
  | some i => .item i r
  | none => .skip r

/-- What a line gives: nothing when its text trims to nothing, and its text otherwise. -/
def lineItem (bs : List UInt8) : Option Inbound :=
  if trim (lineText bs) = [] then none else some (.text (String.ofList (lineText bs)))

/-! ## Cutting lines -/

/-- Without a line feed among the first `n` bytes, a line is cut at `n` bytes. -/
theorem takeLine_of_not_mem {n : Nat} {bs : List UInt8} (h : (0x0A : UInt8) ∉ bs.take n) :
    takeLine n bs = (bs.take n, bs.drop n) := by
  induction n generalizing bs with
  | zero => rfl
  | succ n ih =>
    cases bs with
    | nil => rfl
    | cons b bs =>
      rw [List.take_succ_cons, List.mem_cons, not_or] at h
      have hb : b ≠ 0x0A := fun hb => h.1 hb.symm
      simp [takeLine, hb, ih h.2]

theorem getLast?_ne_of_not_mem {bs : List UInt8} (h : (0x0A : UInt8) ∉ bs) :
    bs.getLast? ≠ some 0x0A := fun hl => h (List.mem_of_getLast? hl)

/-- A line unit is read as its line item, the decoder untouched. -/
theorem step_of_cut_line {r : Reader} {bs rest : List UInt8}
    (h : cut r.bytes r.ending = .ok (.line bs, rest)) :
    r.step = Step.ofItem (lineItem bs) { r with bytes := rest } := by
  rw [Reader.step, h]
  simp only [lineItem, trim_eq_nil_iff]
  split <;> rfl

/-- A frame unit is read by the decoder, the frame's answer giving the item. -/
theorem step_of_cut_frame {r : Reader} {p rest : List UInt8}
    (h : cut r.bytes r.ending = .ok (.frame p, rest)) :
    r.step = Step.ofItem ((r.decoder.readPayload p).1.map .message)
      { r with bytes := rest, decoder := (r.decoder.readPayload p).2 } := by
  rw [Reader.step, h]
  dsimp only
  cases (r.decoder.readPayload p).1 <;> rfl

/-- Any decoder reads a frame as the payload it carries. -/
theorem Decoder.readFrame_carries (d : Decoder) {f p : List UInt8} (h : Frame.Carries f p) :
    d.readFrame f = d.readPayload p := by
  cases hd : d.enabled
  · rw [Decoder.readFrame_of_disabled hd, Decoder.readPayload_of_disabled hd]
  · exact Decoder.readFrame_of_carries hd h

/-! ## One unit of a stream that ends cleanly -/

section Units

variable (d : Decoder)

/-- At the end of the bytes the connection is closed. -/
theorem step_nil : Reader.step ⟨[], .eof, d⟩ = .stop .connectionClosed ⟨[], .eof, d⟩ := rfl

/-- A frame whose header is cut short closes the connection. -/
theorem step_short_header {hdr : List UInt8} (h : hdr.length < 4) :
    Reader.step ⟨frameVersion :: hdr, .eof, d⟩ =
      .stop .connectionClosed ⟨frameVersion :: hdr, .eof, d⟩ := by
  match hdr, h with
  | [], _ | [_], _ | [_, _], _ | [_, _, _], _ => rfl

/-- The four bytes of a length, read most significant first. -/
theorem bigEndian_four {L : Nat} (hL : L < capacity 4) :
    ∃ a b c e, bigEndian 4 L = [a, b, c, e] ∧ valueBig [a, b, c, e] = L := by
  have hlen := length_bigEndian 4 L
  have hv := valueBig_bigEndian hL
  generalize bigEndian 4 L = hs at hlen hv
  match hs, hlen with
  | [a, b, c, e], _ => exact ⟨a, b, c, e, rfl, hv⟩

/-- A frame that announces more than `maxPayload` bytes ends the stream with that size. -/
theorem step_too_large {L : Nat} (hL : L < capacity 4) (h : maxPayload < L) (body : List UInt8) :
    Reader.step ⟨frameVersion :: bigEndian 4 L ++ body, .eof, d⟩ =
      .stop (.frameTooLarge L) ⟨frameVersion :: bigEndian 4 L ++ body, .eof, d⟩ := by
  obtain ⟨a, b, c, e, hs, hv⟩ := bigEndian_four hL
  rw [hs]
  simp [Reader.step, cut, hv, h]

/-- A frame whose payload is cut short closes the connection. -/
theorem step_short_payload {L : Nat} (hL : L ≤ maxPayload) {body : List UInt8}
    (h : body.length < L) :
    Reader.step ⟨frameVersion :: bigEndian 4 L ++ body, .eof, d⟩ =
      .stop .connectionClosed ⟨frameVersion :: bigEndian 4 L ++ body, .eof, d⟩ := by
  obtain ⟨a, b, c, e, hs, hv⟩ := bigEndian_four (Nat.lt_of_le_of_lt hL maxPayload_lt_capacity)
  rw [hs]
  simp [Reader.step, cut, hv, h, Nat.not_lt.2 hL, Ending.shortFrame]

/-- A whole frame is read as the decoder reads that frame: an item when it answers a message,
a skip otherwise, and the decoder as the frame leaves it. -/
theorem step_whole_frame {p : List UInt8} (hp : p.length ≤ maxPayload) (rest : List UInt8) :
    Reader.step ⟨frameVersion :: bigEndian 4 p.length ++ p ++ rest, .eof, d⟩ =
      Step.ofItem ((d.readFrame (frameVersion :: bigEndian 4 p.length ++ p)).1.map .message)
        ⟨rest, .eof, (d.readFrame (frameVersion :: bigEndian 4 p.length ++ p)).2⟩ := by
  have hcarries : Frame.Carries (frameVersion :: bigEndian 4 p.length ++ p) p :=
    ⟨hp, [], by rw [List.append_nil]⟩
  rw [step_of_cut_frame (cut_frame hp rest .eof), Decoder.readFrame_carries d hcarries]

/-- A line is read through its line feed when that comes within `lineLimit` bytes. -/
theorem step_line {pre : List UInt8} (hhead : pre.head? ≠ some frameVersion)
    (hlf : (0x0A : UInt8) ∉ pre) (hlen : pre.length < lineLimit) (post : List UInt8) :
    Reader.step ⟨pre ++ 0x0A :: post, .eof, d⟩ =
      Step.ofItem (lineItem (pre ++ [0x0A])) ⟨post, .eof, d⟩ := by
  have hhead' : (pre ++ 0x0A :: post).head? ≠ some frameVersion := by
    cases pre with
    | nil => simp [frameVersion]
    | cons b pre => simpa using hhead
  have hcut : cut (pre ++ 0x0A :: post) .eof = .ok (.line (pre ++ [0x0A]), post) := by
    rw [cut_of_ne hhead' (by simp), cutLine, takeLine_line hlf hlen post]
    simp
  exact step_of_cut_line hcut

/-- A last line without a line feed, shorter than `lineLimit`, is still read as a line. -/
theorem step_last_line {bs : List UInt8} (hne : bs ≠ []) (hhead : bs.head? ≠ some frameVersion)
    (hlf : (0x0A : UInt8) ∉ bs) (hlen : bs.length < lineLimit) :
    Reader.step ⟨bs, .eof, d⟩ = Step.ofItem (lineItem bs) ⟨[], .eof, d⟩ := by
  have htake : takeLine lineLimit bs = (bs, []) := by
    rw [takeLine_of_not_mem (by rwa [List.take_of_length_le (by omega)]),
      List.take_of_length_le (by omega), List.drop_of_length_le (by omega)]
  have hcut : cut bs .eof = .ok (.line bs, []) := by
    rw [cut_of_ne hhead hne, cutLine, htake]
    simp [getLast?_ne_of_not_mem hlf, Nat.ne_of_lt hlen]
  exact step_of_cut_line hcut

/-- A line with no line feed among its first `lineLimit` bytes ends the stream as too large. -/
theorem step_long_line {bs : List UInt8} (hhead : bs.head? ≠ some frameVersion)
    (hlen : lineLimit ≤ bs.length) (hlf : (0x0A : UInt8) ∉ bs.take lineLimit) :
    Reader.step ⟨bs, .eof, d⟩ = .stop (.frameTooLarge lineLimit) ⟨bs, .eof, d⟩ := by
  have hne : bs ≠ [] := by
    rintro rfl
    simp [lineLimit] at hlen
  have hcut : cut bs .eof = .error (.frameTooLarge lineLimit) := by
    rw [cut_of_ne hhead hne, cutLine, takeLine_of_not_mem hlf]
    simp [getLast?_ne_of_not_mem hlf, List.length_take_of_le hlen]
  rw [Reader.step, hcut]

end Units

/-! ## Reading to the end -/

/-- Reading to the end is reading item after item: the items `drain` collects are the
successive reads, then the fault that stops them. The induction follows `drain`. -/
theorem Reader.reads_drain (r : Reader) :
    r.Reads r.drain.1 r.drain.2.1 r.drain.2.2.decoder.enabled := by
  fun_induction Reader.drain r with
  | case1 r i r' h _ items f last hdrain ih =>
    rw [hdrain] at ih
    exact .item (Reader.next_of_item h) ih
  | case2 r r' h _ ih => exact ih.of_skip h
  | case3 r f r' h => exact .stop (Reader.next_of_stop h)

/-- Every unit takes a byte, so reading to the end gives at most one item per byte. -/
theorem Reader.drain_length (r : Reader) : r.drain.1.length ≤ r.bytes.length := by
  fun_induction Reader.drain r with
  | case1 r i r' h _ items f last hdrain ih =>
    rw [hdrain] at ih
    dsimp only at ih
    have := Reader.step_item_length h
    simp only [List.length_cons]
    omega
  | case2 r r' h _ ih =>
    have := Reader.step_skip_length h
    omega
  | case3 r f r' h => simp

/-- **How a console stream is read, unit by unit.** From any decoder, over bytes that end
cleanly: no bytes left close the connection. A unit that starts with the version byte is a frame:
a header cut short, or a payload cut short, closes the connection; a header that announces more
than `maxPayload` bytes ends the stream as too large, with that size; a whole frame is read
exactly as the decoder reads that same frame, an item when it answers a message and skipped
otherwise, and leaves the decoder as that frame leaves it. Any other unit is a line, read through
its first line feed: a line without one among its first `lineLimit` bytes ends the stream as too
large, and a last line shorter than that is still a line; a line is skipped when its text trims
to nothing, and is otherwise an item, its text. Every unit takes at least one byte, so reading
to the end is a run of successive reads that gives at most one item per byte. -/
theorem stream_units :
    (∀ d : Decoder, Reader.step ⟨[], .eof, d⟩ = .stop .connectionClosed ⟨[], .eof, d⟩) ∧
    (∀ (d : Decoder) (hdr : List UInt8), hdr.length < 4 →
      Reader.step ⟨frameVersion :: hdr, .eof, d⟩ =
        .stop .connectionClosed ⟨frameVersion :: hdr, .eof, d⟩) ∧
    (∀ (d : Decoder) (L : Nat) (body : List UInt8), L < capacity 4 → maxPayload < L →
      Reader.step ⟨frameVersion :: bigEndian 4 L ++ body, .eof, d⟩ =
        .stop (.frameTooLarge L) ⟨frameVersion :: bigEndian 4 L ++ body, .eof, d⟩) ∧
    (∀ (d : Decoder) (L : Nat) (body : List UInt8), L ≤ maxPayload → body.length < L →
      Reader.step ⟨frameVersion :: bigEndian 4 L ++ body, .eof, d⟩ =
        .stop .connectionClosed ⟨frameVersion :: bigEndian 4 L ++ body, .eof, d⟩) ∧
    (∀ (d : Decoder) (p rest : List UInt8), p.length ≤ maxPayload →
      Reader.step ⟨frameVersion :: bigEndian 4 p.length ++ p ++ rest, .eof, d⟩ =
        Step.ofItem ((d.readFrame (frameVersion :: bigEndian 4 p.length ++ p)).1.map .message)
          ⟨rest, .eof, (d.readFrame (frameVersion :: bigEndian 4 p.length ++ p)).2⟩) ∧
    (∀ (d : Decoder) (pre post : List UInt8), pre.head? ≠ some frameVersion →
      (0x0A : UInt8) ∉ pre → pre.length < lineLimit →
      Reader.step ⟨pre ++ 0x0A :: post, .eof, d⟩ =
        Step.ofItem (lineItem (pre ++ [0x0A])) ⟨post, .eof, d⟩) ∧
    (∀ (d : Decoder) (bs : List UInt8), bs ≠ [] → bs.head? ≠ some frameVersion →
      (0x0A : UInt8) ∉ bs → bs.length < lineLimit →
      Reader.step ⟨bs, .eof, d⟩ = Step.ofItem (lineItem bs) ⟨[], .eof, d⟩) ∧
    (∀ (d : Decoder) (bs : List UInt8), bs.head? ≠ some frameVersion → lineLimit ≤ bs.length →
      (0x0A : UInt8) ∉ bs.take lineLimit →
      Reader.step ⟨bs, .eof, d⟩ = .stop (.frameTooLarge lineLimit) ⟨bs, .eof, d⟩) ∧
    (∀ (r r' : Reader) (i : Inbound), r.step = .item i r' → r'.bytes.length < r.bytes.length) ∧
    (∀ r r' : Reader, r.step = .skip r' → r'.bytes.length < r.bytes.length) ∧
    (∀ r : Reader, r.Reads r.drain.1 r.drain.2.1 r.drain.2.2.decoder.enabled ∧
      r.drain.1.length ≤ r.bytes.length) :=
  ⟨step_nil, fun d _ h => step_short_header d h, fun d _ body hL h => step_too_large d hL h body,
    fun d _ _ hL h => step_short_payload d hL h, fun d _ rest hp => step_whole_frame d hp rest,
    fun d _ post hhead hlf hlen => step_line d hhead hlf hlen post,
    fun d _ hne hhead hlf hlen => step_last_line d hne hhead hlf hlen,
    fun d _ hhead hlen hlf => step_long_line d hhead hlen hlf,
    fun _ _ _ h => Reader.step_item_length h, fun _ _ h => Reader.step_skip_length h,
    fun r => ⟨Reader.reads_drain r, Reader.drain_length r⟩⟩

end ChatHub.Stream
