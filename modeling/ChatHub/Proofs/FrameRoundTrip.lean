import ChatHub.Wire.Decoder
import ChatHub.Proofs.Utf8RoundTrip
/-!
# ChatHub — a frame written and read back

A message goes on the wire as a frame: the version byte, the record's size in four bytes most
significant first, and the record. This module proves that the two ends agree:

* **`Record.length_encode`** — a record has `Record.size` bytes: forty bytes of numbers, lengths
  and tag, the UTF-8 bytes of sender, receiver and content, and four more for a terminal;
* **`Record.decode_encode`** — a record reads back as its message, whatever bytes follow it;
* **`frame_reads_back`** — a message is framed exactly when its record fits a frame, and refused
  with the record's size otherwise; its frame, and its bare record, read back as the message from
  any decoder still on, with any bytes after them, and leave the decoder on.

A record never looks blank to the decoder: its first byte is the command's number, below five,
and no blank byte is that small (`isBlankBytes_encode`).
-/

namespace ChatHub.Wire

open Text

/-! ## Numbers -/

theorem valueBig_bigEndian {k n : Nat} (h : n < capacity k) : valueBig (bigEndian k n) = n := by
  rw [valueBig, bigEndian, List.reverse_reverse, valueLittle_littleEndian k n h]

theorem length_bigEndian (k n : Nat) : (bigEndian k n).length = k := by
  rw [bigEndian, List.length_reverse, length_littleEndian]

/-- A frame's size field holds any payload size a frame may carry. -/
theorem maxPayload_lt_capacity : maxPayload < capacity 4 := by decide

/-! ## The record's size -/

/-- The size of a message's record: four bytes of command, eight of time, four of online count,
then sender, receiver and content, each as eight bytes of length and its UTF-8 bytes, and last one
tag byte, with four more for a terminal. -/
def Record.size (m : Message) : Nat :=
  40 + m.sender.utf8ByteSize + m.receiver.utf8ByteSize + m.content.utf8ByteSize +
    if m.terminal.isSome then 5 else 1

theorem length_textField (s : String) : (textField s).length = 8 + s.utf8ByteSize := by
  rw [textField, List.length_append, length_littleEndian, Utf8.length_encodeString]

theorem length_terminalField (t : Option Terminal) :
    (terminalField t).length = if t.isSome then 5 else 1 := by
  cases t with
  | none => rfl
  | some t => simp [terminalField, length_littleEndian]

/-- **A record has `Record.size` bytes.** -/
theorem Record.length_encode (m : Message) : (Record.encode m).length = Record.size m := by
  simp only [Record.encode, List.length_append, length_littleEndian, length_textField,
    length_terminalField, Record.size]
  omega

/-! ## The record read back -/

theorem readText_textField (s : String) (h : s.utf8ByteSize < capacity 8) (rest : List UInt8) :
    readText (textField s ++ rest) = some (s, rest) := by
  rw [← Utf8.length_encodeString] at h
  simp only [readText, textField, List.append_assoc, readLittle_littleEndian _ _ _ h]
  simp [Utf8.encodeString, Utf8.decode?_encode]

theorem readTerminal_terminalField (t : Option Terminal) (rest : List UInt8) :
    readTerminal (terminalField t ++ rest) = some t := by
  cases t with
  | none => rfl
  | some t =>
    have hi : t.index < capacity 4 := by cases t <;> decide
    simp [terminalField, readTerminal, readLittle_littleEndian _ _ _ hi, Terminal.ofIndex?_index]

/-- A message has a record when each of its texts fits the eight-byte length in front of it. -/
def Record.Fits (m : Message) : Prop :=
  m.sender.utf8ByteSize < capacity 8 ∧ m.receiver.utf8ByteSize < capacity 8 ∧
    m.content.utf8ByteSize < capacity 8

/-- **A record reads back as its message**, whatever bytes follow it, as long as its text fields
fit their eight-byte lengths. -/
theorem Record.decode_encode_of_fits {m : Message} (h : Record.Fits m) (rest : List UInt8) :
    Record.decode (Record.encode m ++ rest) = some m := by
  obtain ⟨hs, hr, hc⟩ := h
  have hi : m.command.index < capacity 4 := Nat.lt_of_lt_of_le m.command.index_lt (by decide)
  have ht : m.sendingTime.toNat < capacity 8 := m.sendingTime.toNat_lt_size
  have ho : m.onlineCount.toNat < capacity 4 := m.onlineCount.toNat_lt_size
  -- each field is read off the front in turn, leaving the fields after it
  simp [Record.decode, Record.encode,
    fun rest => readLittle_littleEndian _ _ rest hi, fun rest => readLittle_littleEndian _ _ rest ht,
    fun rest => readLittle_littleEndian _ _ rest ho, readText_textField _ hs,
    readText_textField _ hr, readText_textField _ hc, readTerminal_terminalField,
    Command.ofIndex?_index]

theorem Record.decode_encode (m : Message) (h : Record.size m < capacity 8) (rest : List UInt8) :
    Record.decode (Record.encode m ++ rest) = some m := by
  unfold Record.size at h
  exact Record.decode_encode_of_fits ⟨by omega, by omega, by omega⟩ rest

theorem isBlankBytes_cons {b : UInt8} (h : isBlankByte b = false) (bs : List UInt8) :
    isBlankBytes (b :: bs) = false := by
  simp [isBlankBytes, h]

/-- A record is never blank: it starts with the command's number. -/
theorem isBlankBytes_encode (m : Message) (rest : List UInt8) :
    isBlankBytes (Record.encode m ++ rest) = false := by
  have hhead : Record.encode m ++ rest =
      (m.command.index % 256).toUInt8 :: (littleEndian 3 (m.command.index / 256) ++
        (littleEndian 8 m.sendingTime.toNat ++ littleEndian 4 m.onlineCount.toNat ++
          textField m.sender ++ textField m.receiver ++ textField m.content ++
          terminalField m.terminal ++ rest)) := by
    simp [Record.encode, littleEndian]
  rw [hhead]
  apply isBlankBytes_cons
  cases m.command <;> decide

/-! ## The frame -/

/-- A frame is refused with the record's size when the record is too long, and otherwise is the
version byte, the size most significant byte first, and the record. -/
theorem Frame.encode_eq (m : Message) :
    Frame.encode m =
      if maxPayload < Record.size m then .error (.frameTooLarge (Record.size m))
      else .ok (frameVersion :: bigEndian 4 (Record.size m) ++ Record.encode m) := by
  rw [Frame.encode, Record.length_encode]

/-- The payload of a frame is the bytes its header announces, whatever follows. -/
theorem Frame.payload_frame {payload : List UInt8} (h : payload.length ≤ maxPayload)
    (x : List UInt8) :
    Frame.payload (frameVersion :: bigEndian 4 payload.length ++ payload ++ x) = .ok payload := by
  have hv : valueBig (bigEndian 4 payload.length) = payload.length :=
    valueBig_bigEndian (Nat.lt_of_le_of_lt h maxPayload_lt_capacity)
  have hlen := length_bigEndian 4 payload.length
  generalize bigEndian 4 payload.length = bs at hv hlen
  match bs, hlen with
  | [a, b, c, e], _ => simp [Frame.payload, hv, Nat.not_lt.2 h, frameVersion]

theorem Decoder.readPayload_encode {d : Decoder} (hd : d.enabled = true) {m : Message}
    (h : Record.size m ≤ maxPayload) (x : List UInt8) :
    d.readPayload (Record.encode m ++ x) = (some m, d) := by
  have hcap : Record.size m < capacity 8 := Nat.lt_of_le_of_lt h (by decide)
  simp [Decoder.readPayload, hd, isBlankBytes_encode, Record.decode_encode m hcap]

theorem Decoder.readFrame_encode {d : Decoder} (hd : d.enabled = true) {m : Message}
    (h : Record.size m ≤ maxPayload) (x : List UInt8) :
    d.readFrame (frameVersion :: bigEndian 4 (Record.size m) ++ Record.encode m ++ x) = (some m, d) := by
  have hlen := Record.length_encode m
  -- the version byte is not blank
  have hblank : isBlankBytes (frameVersion :: bigEndian 4 (Record.size m) ++ Record.encode m ++ x) =
      false :=
    isBlankBytes_cons (by decide) _
  rw [Decoder.readFrame, hd, hblank, ← hlen, Frame.payload_frame (hlen ▸ h)]
  simpa using Decoder.readPayload_encode hd h []

/-- **A frame read back.** A message is framed exactly when its record fits a frame, and is
refused with the record's size otherwise; the frame is the version byte, the size most
significant byte first, and the record, of `Record.size` bytes. The frame, and the bare record,
read back as the message from any decoder that is still on, whatever bytes follow them, and the
decoder stays on. -/
theorem frame_reads_back (m : Message) :
    Frame.encode m =
      (if maxPayload < Record.size m then .error (.frameTooLarge (Record.size m))
       else .ok (frameVersion :: bigEndian 4 (Record.size m) ++ Record.encode m)) ∧
    (Record.encode m).length = Record.size m ∧
    ∀ f, Frame.encode m = .ok f → ∀ (x : List UInt8) (d : Decoder), d.enabled = true →
      d.readFrame (f ++ x) = (some m, d) ∧ d.readPayload (Record.encode m ++ x) = (some m, d) := by
  refine ⟨Frame.encode_eq m, Record.length_encode m, fun f hf x d hd => ?_⟩
  rw [Frame.encode_eq] at hf
  split at hf
  · cases hf
  · next hfit =>
    have h : Record.size m ≤ maxPayload := Nat.le_of_not_lt hfit
    cases hf
    exact ⟨Decoder.readFrame_encode hd h x, Decoder.readPayload_encode hd h x⟩

/-- A FLOWER from erin on a web socket is framed, and its frame reads back on a fresh
decoder. -/
theorem frame_reads_back_flower :
    Frame.encode (Message.flower "erin" .webSocket 3) =
        .ok (frameVersion :: bigEndian 4 (Record.size (Message.flower "erin" .webSocket 3)) ++
          Record.encode (Message.flower "erin" .webSocket 3)) ∧
      ({} : Decoder).enabled = true ∧
      ({} : Decoder).readFrame
          ((frameVersion :: bigEndian 4 (Record.size (Message.flower "erin" .webSocket 3)) ++
            Record.encode (Message.flower "erin" .webSocket 3)) ++ []) =
        (some (Message.flower "erin" .webSocket 3), {}) ∧
      ({} : Decoder).readPayload (Record.encode (Message.flower "erin" .webSocket 3) ++ []) =
        (some (Message.flower "erin" .webSocket 3), {}) := by
  obtain ⟨henc, -, hread⟩ := frame_reads_back (Message.flower "erin" .webSocket 3)
  have hfit : ¬ maxPayload < Record.size (Message.flower "erin" .webSocket 3) := by decide
  rw [if_neg hfit] at henc
  exact ⟨henc, rfl, hread _ henc [] {} rfl⟩

end ChatHub.Wire
