import ChatHub.Stream.Reader
import ChatHub.Stream.Writer
import ChatHub.Proofs.FrameRoundTrip
import Mathlib.Data.List.TakeWhile
/-!
# ChatHub — a console stream written and read back

One byte stream carries frames and text lines mixed, told apart by their first byte. This module
writes any run of requests with the writer and reads the bytes back with a fresh reader:

* **`writeAll_eq`** — every request succeeds but a message whose record is too long for a frame,
  which is refused with the record's size and writes nothing;
* **`Reader.Reads`** — what successive reads from a reader give, item by item, until the fault
  that stops them;
* **`stream_reads_back`** — reading the bytes back gives, in order, each message that was framed
  and each line that is not blank, without the carriage returns at its end, then the close of the
  connection; the binary decoder stays on throughout.

A line must not hold a line feed, must not start with the frame's version character, and must fit
the reader's line limit with its line feed; a line that is blank is read and skipped.
-/

namespace ChatHub.Stream

open Wire Text

/-! ## Text without its trailing carriage returns -/

/-- A text without the carriage returns at its end. -/
def stripCR (cs : List Char) : List Char :=
  (cs.reverse.dropWhile (· = '\r')).reverse

theorem dropWhile_congr {p q : Char → Bool} {l : List Char} (h : ∀ x ∈ l, p x = q x) :
    l.dropWhile p = l.dropWhile q := by
  induction l with
  | nil => rfl
  | cons a l ih =>
    rw [List.dropWhile_cons, List.dropWhile_cons, h a List.mem_cons_self,
      ih fun x hx => h x (List.mem_cons_of_mem a hx)]

theorem isBlank_append (cs ds : List Char) : isBlank (cs ++ ds) = (isBlank cs && isBlank ds) := by
  simp [isBlank, List.all_append]

/-- Carriage returns are blank, so cutting them off a text keeps it blank or not blank. -/
theorem isBlank_stripCR (cs : List Char) : isBlank (stripCR cs) = isBlank cs := by
  have hsplit := List.takeWhile_append_dropWhile (p := fun c => decide (c = '\r')) (l := cs.reverse)
  have hcr : isBlank (cs.reverse.takeWhile fun c => decide (c = '\r')) = true := by
    simp only [isBlank, List.all_eq_true]
    intro c hc
    have := List.mem_takeWhile_imp hc
    simp only [decide_eq_true_eq] at this
    subst this
    decide
  have hrev : ∀ l : List Char, isBlank l.reverse = isBlank l := by
    intro l
    simp [isBlank]
  rw [stripCR, hrev]
  conv_rhs => rw [← hrev cs, ← hsplit, isBlank_append, hcr, Bool.true_and]

/-- A text trims to nothing exactly when it is blank. -/
theorem trim_eq_nil_iff (cs : List Char) : trim cs = [] ↔ isBlank cs = true := by
  have hall : ∀ l : List Char, (∀ x ∈ l.dropWhile isSpace, isSpace x = true) ↔
      ∀ x ∈ l, isSpace x = true := by
    intro l
    constructor
    · intro h
      -- what is left after the leading spaces starts with no space, so nothing is left
      have hnil : l.dropWhile isSpace = [] := by
        by_contra hne
        have := List.head_dropWhile_not isSpace hne
        rw [h _ (List.head_mem hne)] at this
        cases this
      exact List.dropWhile_eq_nil_iff.1 hnil
    · intro h x hx
      exact h x ((List.dropWhile_sublist _).subset hx)
  rw [trim, List.reverse_eq_nil_iff, List.dropWhile_eq_nil_iff]
  simp only [List.mem_reverse]
  rw [hall, isBlank, List.all_eq_true]

/-! ## The writer -/

/-- What the writer reports for a request: a message whose record is too long for a frame is
refused with the record's size, and every other request succeeds. -/
def Outgoing.result : Outgoing → Except Fault Unit
  | .message m => if maxPayload < Record.size m then .error (.frameTooLarge (Record.size m)) else .ok ()
  | .text _ | .shutdown => .ok ()

/-- The bytes a request appends: a message's frame, a line and its line feed, and nothing for a
refused message or a shutdown. -/
def Outgoing.written : Outgoing → List UInt8
  | .message m =>
    if maxPayload < Record.size m then [] else frameVersion :: bigEndian 4 (Record.size m) ++ Record.encode m
  | .text t => Utf8.encodeString t ++ [0x0A]
  | .shutdown => []

/-- **What the writer does.** Each request reports its result, and the bytes are those the
requests append, in order; a refused message appends nothing. -/
theorem writeAll_eq (ws : List Outgoing) :
    writeAll ws = (ws.map Outgoing.result, ws.flatMap Outgoing.written) := by
  induction ws with
  | nil => rfl
  | cons w ws ih =>
    rw [writeAll, ih]
    cases w with
    | message m =>
      by_cases h : maxPayload < Record.size m
      · simp [Outgoing.bytes, Frame.encode_eq, Outgoing.result, Outgoing.written, h]
      · simp [Outgoing.bytes, Frame.encode_eq, Outgoing.result, Outgoing.written, h]
    | text t => rfl
    | shutdown => rfl

/-! ## Reading to the end -/

/-- Successive reads from `r` give `items` in order, each with whether the binary decoder is
still on after it, and then stop with the fault `f`, the decoder then on exactly when `on`. -/
inductive Reader.Reads : Reader → List (Inbound × Bool) → Fault → Bool → Prop
  | stop {r r' : Reader} {f : Fault} : r.next = (.error f, r') → Reads r [] f r'.decoder.enabled
  | item {r r' : Reader} {i : Inbound} {items : List (Inbound × Bool)} {f : Fault} {on : Bool} :
      r.next = (.ok i, r') → Reads r' items f on → Reads r ((i, r'.decoder.enabled) :: items) f on

theorem Reader.next_of_item {r r' : Reader} {i : Inbound} (h : r.step = .item i r') :
    r.next = (.ok i, r') := by
  rw [Reader.next]
  split <;> simp_all

theorem Reader.next_of_skip {r r' : Reader} (h : r.step = .skip r') : r.next = r'.next := by
  rw [Reader.next]
  split <;> simp_all

theorem Reader.next_of_stop {r r' : Reader} {f : Fault} (h : r.step = .stop f r') :
    r.next = (.error f, r') := by
  rw [Reader.next]
  split <;> simp_all

/-- A skipped unit is not seen by the reads. -/
theorem Reader.Reads.of_skip {r r' : Reader} {items : List (Inbound × Bool)} {f : Fault}
    {on : Bool} (h : r.step = .skip r') (hr : r'.Reads items f on) : r.Reads items f on := by
  cases hr with
  | stop h' => exact .stop (by rw [Reader.next_of_skip h, h'])
  | item h' hr' => exact .item (by rw [Reader.next_of_skip h, h']) hr'

/-- At the end of the bytes of a source that ends cleanly, reading stops with the close of the
connection. -/
theorem Reader.reads_nil (d : Decoder) :
    Reader.Reads ⟨[], .eof, d⟩ [] .connectionClosed d.enabled := by
  have h : Reader.next ⟨[], .eof, d⟩ = (.error .connectionClosed, ⟨[], .eof, d⟩) :=
    Reader.next_of_stop rfl
  exact .stop h

/-! ## One unit -/

/-- A line is cut through its line feed, when that comes within `n` bytes. -/
theorem takeLine_line {xs : List UInt8} (hlf : 0x0A ∉ xs) {n : Nat} (hn : xs.length < n)
    (rest : List UInt8) : takeLine n (xs ++ 0x0A :: rest) = (xs ++ [0x0A], rest) := by
  induction xs generalizing n with
  | nil =>
    obtain ⟨n, rfl⟩ := Nat.exists_eq_add_of_lt hn
    simp [takeLine]
  | cons b xs ih =>
    cases n with
    | zero => simp at hn
    | succ n =>
      have hb : b ≠ 0x0A := fun h => hlf (h ▸ List.mem_cons_self ..)
      have hrest := ih (fun h => hlf (List.mem_cons_of_mem b h)) (by simpa using hn)
      simp [takeLine, hb, hrest]

/-- A character whose number is that of a byte below 0x80 is that byte's character. -/
theorem eq_ofNat_of_toNat {c : Char} {b : UInt8} (h : c.toNat = b.toNat) :
    c = Char.ofNat b.toNat := by
  rw [← h, Char.ofNat_toNat]

/-- The bytes of a text without line feeds hold no line-feed byte. -/
theorem lf_not_mem_encode {cs : List Char} (h : '\n' ∉ cs) : (0x0A : UInt8) ∉ Utf8.encode cs := by
  intro hmem
  obtain ⟨c, hc, hcn⟩ := Utf8.mem_encode hmem (by decide)
  rw [eq_ofNat_of_toNat hcn] at hc
  exact h hc

/-- A line's bytes start with the version byte only if the line starts with the version
character. -/
theorem head?_line_ne {cs : List Char} (h : cs.head? ≠ some (Char.ofNat 1)) (rest : List UInt8) :
    (Utf8.encode cs ++ 0x0A :: rest).head? ≠ some frameVersion := by
  cases cs with
  | nil => simp [frameVersion]
  | cons c cs =>
    intro hb
    obtain ⟨x, hx⟩ : ∃ x, (Utf8.encode (c :: cs)).head? = some x := by
      rw [Utf8.encode_cons]
      obtain ⟨x, tl, he⟩ := List.exists_cons_of_ne_nil (l := Utf8.encodeChar c) (by
        rw [← List.length_pos_iff, Utf8.length_encodeChar]
        exact Char.utf8Size_pos c)
      exact ⟨x, by simp [he]⟩
    rw [List.head?_append, hx, Option.some_or, Option.some.injEq] at hb
    subst hb
    have hc := Utf8.head?_encode hx (by decide)
    exact h (by rw [List.head?_cons, eq_ofNat_of_toNat hc]; rfl)

/-- A unit that does not start with the version byte is cut as a line. -/
theorem cut_of_ne {bs : List UInt8} (h : bs.head? ≠ some frameVersion) (hne : bs ≠ [])
    (e : Ending) : cut bs e = cutLine bs e := by
  obtain ⟨b, tl, rfl⟩ := List.exists_cons_of_ne_nil hne
  have hb : b ≠ frameVersion := fun hb => h (by rw [hb]; rfl)
  simp [cut, hb]

/-- The text of a line is what was written, without the carriage returns at its end. -/
theorem lineText_line {cs : List Char} (h : '\n' ∉ cs) :
    lineText (Utf8.encode cs ++ [0x0A]) = stripCR cs := by
  have henc : Utf8.encode cs ++ [0x0A] = Utf8.encode (cs ++ ['\n']) := by
    rw [Utf8.encode_append]
    rfl
  rw [lineText, henc, Utf8.decodeLossy_encode, List.reverse_append, List.reverse_singleton,
    List.singleton_append, List.dropWhile_cons_of_pos (by decide), stripCR]
  congr 1
  apply dropWhile_congr
  intro c hc
  have hne : c ≠ '\n' := fun he => h (List.mem_reverse.1 (he ▸ hc))
  simp [hne]

/-- **A line is read as its text.** A line with no line feed, not starting with the version
character and within the line limit, is read whole: skipped when blank, and otherwise its text
without the carriage returns at its end. -/
theorem Reader.step_line {cs : List Char} (hlf : '\n' ∉ cs) (hhead : cs.head? ≠ some (Char.ofNat 1))
    (hlen : (Utf8.encode cs).length ≤ maxPayload) (rest : List UInt8) (d : Decoder) :
    Reader.step ⟨Utf8.encode cs ++ 0x0A :: rest, .eof, d⟩ =
      if isBlank cs then .skip ⟨rest, .eof, d⟩
      else .item (.text (String.ofList (stripCR cs))) ⟨rest, .eof, d⟩ := by
  have htake := takeLine_line (lf_not_mem_encode hlf) (n := lineLimit)
    (by unfold lineLimit; omega) rest
  have hcut : cut (Utf8.encode cs ++ 0x0A :: rest) .eof =
      .ok (.line (Utf8.encode cs ++ [0x0A]), rest) := by
    rw [cut_of_ne (head?_line_ne hhead rest) (by simp), cutLine, htake]
    simp
  rw [Reader.step, hcut]
  simp only [lineText_line hlf, isBlank_stripCR]

/-- A frame is cut whole: its header announces its payload. -/
theorem cut_frame {payload : List UInt8} (h : payload.length ≤ maxPayload) (rest : List UInt8)
    (e : Ending) :
    cut (frameVersion :: bigEndian 4 payload.length ++ payload ++ rest) e =
      .ok (.frame payload, rest) := by
  have hv : valueBig (bigEndian 4 payload.length) = payload.length :=
    valueBig_bigEndian (Nat.lt_of_le_of_lt h maxPayload_lt_capacity)
  have hlen := length_bigEndian 4 payload.length
  generalize bigEndian 4 payload.length = bs at hv hlen
  match bs, hlen with
  | [a, b, c, e'], _ => simp [cut, hv, Nat.not_lt.2 h]

/-- **A frame is read as its message**, and the decoder stays on. -/
theorem Reader.step_frame {m : Message} (h : Record.size m ≤ maxPayload) (rest : List UInt8)
    (e : Ending) {d : Decoder} (hd : d.enabled = true) :
    Reader.step ⟨frameVersion :: bigEndian 4 (Record.size m) ++ Record.encode m ++ rest, e, d⟩ =
      .item (.message m) ⟨rest, e, d⟩ := by
  have hlen := Record.length_encode m
  have hread : d.readPayload (Record.encode m) = (some m, d) := by
    simpa using Decoder.readPayload_encode hd h []
  rw [Reader.step]
  dsimp only
  rw [← hlen, cut_frame (hlen ▸ h)]
  simp [hread]

/-! ## A run of writes read back -/

/-- What a request puts on the stream for a reader: a message framed is read as itself, a line
that does not trim to nothing as its text without the carriage returns at its end, and anything
else as nothing. -/
def Outgoing.readBack : Outgoing → Option Inbound
  | .message m => if maxPayload < Record.size m then none else some (.message m)
  | .text t => if trim t.toList = [] then none else some (.text (String.ofList (stripCR t.toList)))
  | .shutdown => none

/-- A request a reader can take back as written: any message or shutdown, and a line with no
line feed that does not start with the version character and has at most a payload's bytes. -/
def Outgoing.Readable : Outgoing → Prop
  | .message _ | .shutdown => True
  | .text t => '\n' ∉ t.toList ∧ t.toList.head? ≠ some (Char.ofNat 1) ∧ t.utf8ByteSize ≤ maxPayload

/-- **One request read back.** After the bytes of a request the reader can take back, the reads
give what the request puts on the stream, then whatever the bytes after it give. -/
theorem Reader.reads_written {w : Outgoing} (hw : w.Readable) {rest : List UInt8}
    {items : List (Inbound × Bool)} {f : Fault} {on : Bool}
    (hr : Reader.Reads ⟨rest, .eof, {}⟩ items f on) :
    Reader.Reads ⟨w.written ++ rest, .eof, {}⟩ ((w.readBack.map (·, true)).toList ++ items) f on := by
  cases w with
  | message m =>
    simp only [Outgoing.written, Outgoing.readBack]
    split
    · exact hr
    · next hfit =>
      exact .item (Reader.next_of_item (Reader.step_frame (Nat.le_of_not_lt hfit) rest .eof rfl)) hr
  | text t =>
    obtain ⟨hlf, hhead, hlen⟩ := hw
    rw [← Utf8.length_encodeString, Utf8.encodeString] at hlen
    have hstep := Reader.step_line hlf hhead hlen rest {}
    simp only [Outgoing.written, Outgoing.readBack, trim_eq_nil_iff, Utf8.encodeString,
      List.append_assoc, List.singleton_append]
    split
    · next hblank =>
      rw [if_pos hblank] at hstep
      exact hr.of_skip hstep
    · next hblank =>
      rw [if_neg hblank] at hstep
      exact .item (Reader.next_of_item hstep) hr
  | shutdown => exact hr

/-- A run of requests read back, with any bytes after them. The induction is on the requests. -/
theorem Reader.reads_writes {ws : List Outgoing} (hws : ∀ w ∈ ws, w.Readable) {rest : List UInt8}
    {items : List (Inbound × Bool)} {f : Fault} {on : Bool}
    (hr : Reader.Reads ⟨rest, .eof, {}⟩ items f on) :
    Reader.Reads ⟨ws.flatMap Outgoing.written ++ rest, .eof, {}⟩
      ((ws.filterMap Outgoing.readBack).map (·, true) ++ items) f on := by
  induction ws with
  | nil => exact hr
  | cons w ws ih =>
    have hw := Reader.reads_written (hws w List.mem_cons_self)
      (ih fun w' h' => hws w' (List.mem_cons_of_mem w h'))
    rw [List.flatMap_cons, List.append_assoc]
    cases hb : w.readBack with
    | none => simpa [List.filterMap_cons, hb] using hw
    | some i => simpa [List.filterMap_cons, hb] using hw

/-- **A console stream read back.** Writing any run of requests, each a message, a shutdown or
a line with no line feed that does not start with the version character and has at most a
payload's bytes: every request succeeds but a message too long for a frame, which is refused
with its record's size and writes nothing. A fresh reader over the bytes then reads, in order,
each message that was framed and each line that does not trim to nothing, without the carriage
returns at its end, and then the close of the connection; the binary decoder is on after every
read. -/
theorem stream_reads_back (ws : List Outgoing) (hws : ∀ w ∈ ws, w.Readable) :
    (writeAll ws).1 = ws.map Outgoing.result ∧
    (writeAll ws).2 = ws.flatMap Outgoing.written ∧
    Reader.Reads { bytes := (writeAll ws).2 } ((ws.filterMap Outgoing.readBack).map (·, true))
      .connectionClosed true := by
  refine ⟨by rw [writeAll_eq], by rw [writeAll_eq], ?_⟩
  have h := Reader.reads_writes hws (Reader.reads_nil {})
  rw [List.append_nil, List.append_nil] at h
  rw [writeAll_eq]
  exact h

/-- The mixed run of the stream's own test: a protocol line, a CHAT frame, an empty line and a
line ending in a carriage return. -/
theorem stream_reads_back_mixed :
    (∀ w ∈ [Outgoing.text "[SYSTEM][1][2] - welcome",
        .message (Message.chat "alice" "Hello, world!" 1234567890), .text "", .text "plain text\r"],
      w.Readable) ∧
    Reader.Reads
      { bytes := (writeAll [.text "[SYSTEM][1][2] - welcome",
          .message (Message.chat "alice" "Hello, world!" 1234567890), .text "",
          .text "plain text\r"]).2 }
      (([Outgoing.text "[SYSTEM][1][2] - welcome",
          .message (Message.chat "alice" "Hello, world!" 1234567890), .text "",
          .text "plain text\r"].filterMap Outgoing.readBack).map (·, true))
      .connectionClosed true := by
  have hws : ∀ w ∈ [Outgoing.text "[SYSTEM][1][2] - welcome",
      .message (Message.chat "alice" "Hello, world!" 1234567890), .text "", .text "plain text\r"],
      w.Readable := by
    simp only [List.mem_cons, List.not_mem_nil, or_false, forall_eq_or_imp, forall_eq]
    refine ⟨⟨by decide, by decide, by decide⟩, trivial, ⟨by decide, by decide, by decide⟩,
      ⟨by decide, by decide, by decide⟩⟩
  exact ⟨hws, (stream_reads_back _ hws).2.2⟩

end ChatHub.Stream
