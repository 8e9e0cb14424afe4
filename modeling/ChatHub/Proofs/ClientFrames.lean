import ChatHub.Web.Tungstenite
import ChatHub.Proofs.FrameRoundTrip
/-!
# ChatHub — the library the hub is built with keeps the laws

A client sends each frame whole and masked; the frames of `ClientFrame.bytes` carry a zero mask.
This module proves that the server's reader takes such frames back, one after another, as the
messages they carry, which is what the gateway's proofs assume of a library:

* **`FrameReader.step_clientFrame`** — a frame the reader takes (`ClientFrame.fits`) reads back
  as its message and leaves the bytes after it; any other frame breaks the protocol;
* **`FrameReader.read_clientFrame`** — reading bytes that start with a client frame is reading
  that frame and then the rest;
* **`tungstenite_lawful`** — the library the hub is built with satisfies `WsLibrary.Lawful`.

The length of a frame is written in seven bits, or in two or eight bytes after them; a payload
too long for eight bytes has no frame, so the statements are about sendable frames.
-/
namespace ChatHub.Web

open Wire

/-! ## The header read back -/

theorem lengthForm_lt (n : Nat) : (lengthForm n).1 < 128 := by
  unfold lengthForm
  split_ifs <;> simp only <;> omega

theorem length_lengthForm (n : Nat) :
    (lengthForm n).2.length = extendedLengthSize (lengthForm n).1 := by
  unfold lengthForm extendedLengthSize
  split_ifs <;> simp_all [length_bigEndian]

theorem bigEndian_ne_nil {k : Nat} (hk : 0 < k) (n : Nat) : bigEndian k n ≠ [] :=
  List.ne_nil_of_length_pos (by rw [length_bigEndian]; exact hk)

theorem payloadLength_lengthForm {n : Nat} (h : n < capacity 8) :
    payloadLength (lengthForm n).1 (lengthForm n).2 = n := by
  unfold lengthForm
  by_cases h₁ : n < 126
  · simp [h₁, payloadLength]
  · by_cases h₂ : n < 65536
    · simp only [h₁, h₂, if_false, if_true, payloadLength, bigEndian_ne_nil (by decide : 0 < 2)]
      exact valueBig_bigEndian (by simp [capacity]; omega)
    · simp only [h₁, h₂, if_false, payloadLength, bigEndian_ne_nil (by decide : 0 < 8)]
      exact valueBig_bigEndian h

theorem unmask_zero (payload : List UInt8) : unmask [0, 0, 0, 0] payload = payload := by
  have hzero : ∀ i, [(0 : UInt8), 0, 0, 0].getD i 0 = 0 := by
    intro i
    rcases i with _ | _ | _ | _ | i <;> simp
  simp only [unmask, hzero, UInt8.xor_zero]
  exact List.zipIdx_map_fst 0 payload

theorem Opcode.ofNat?_toNat (op : Opcode) : Opcode.ofNat? ((128 + op.toNat) % 16) = some op := by
  cases op <;> rfl

/-- A masked frame with a zero mask reads back whole, or breaks the protocol when it is longer
than the reader allows. -/
theorem readFrame_masked {op : Opcode} {short : Nat} {ext payload rest : List UInt8}
    (hshort : short < 128) (hext : ext.length = extendedLengthSize short)
    (hlen : payloadLength short ext = payload.length) :
    readFrame (UInt8.ofNat (128 + op.toNat) :: UInt8.ofNat (128 + short) ::
        (ext ++ [0, 0, 0, 0] ++ payload ++ rest)) =
      if maxFramePayload < payload.length then .violation
      else .frame ⟨true, false, op, true, payload⟩ rest := by
  have hb1 : (UInt8.ofNat (128 + short)).toNat = 128 + short := by
    rw [UInt8.toNat_ofNat']; omega
  have hop : op.toNat < 16 := by cases op <;> decide
  have hb0 : (UInt8.ofNat (128 + op.toNat)).toNat = 128 + op.toNat := by
    rw [UInt8.toNat_ofNat']; omega
  have hreserved : (128 + op.toNat) / 16 % 8 = 0 := by omega
  have hmod : (128 + short) % 128 = short := by omega
  -- the header is complete, and so is the payload after the four mask bytes
  have hroom : ¬ (ext ++ ([0, 0, 0, 0] ++ (payload ++ rest))).length < extendedLengthSize short + 4 := by
    simp only [List.length_append, List.length_cons, List.length_nil, hext]
    omega
  have hbody : ¬ (payload ++ rest).length < payload.length := by simp
  have hzeros : ([0, 0, 0, 0] : List UInt8).length = 4 := rfl
  simp only [readFrame, hb1, hb0, hmod, hreserved, List.append_assoc, List.take_left' hext,
    List.drop_left' hext, hlen, Opcode.ofNat?_toNat, maskSize, Nat.le_add_right, decide_true,
    if_true, hroom, if_false, List.drop_left' hzeros, List.take_left' hzeros, hbody, List.take_left, List.drop_left,
    unmask_zero]
  rfl

/-- A client frame reads back whole, whatever bytes follow it, or breaks the protocol when its
payload is longer than the reader allows. -/
theorem readFrame_clientFrame (f : ClientFrame) (rest : List UInt8) (hcap : f.Sendable) :
    readFrame (f.bytes ++ rest) =
      if maxFramePayload < f.payload.length then .violation
      else .frame ⟨true, false, f.opcode, true, f.payload⟩ rest := by
  rw [ClientFrame.bytes, List.cons_append, List.cons_append]
  exact readFrame_masked (lengthForm_lt _) (length_lengthForm _) (payloadLength_lengthForm hcap)

/-! ## The message read back -/

theorem ClientFrame.length_le_of_fits {f : ClientFrame} (h : f.fits = true) :
    f.payload.length ≤ maxFramePayload := by
  have hcontrol : 125 ≤ maxFramePayload := by decide
  cases f <;> simp_all [ClientFrame.fits, ClientFrame.payload] <;> omega

/-- A whole, masked client frame within the frame limit is the message it carries when the
reader takes it, and breaks the protocol otherwise. -/
theorem FrameReader.accept_clientFrame {f : ClientFrame} (h : f.payload.length ≤ maxFramePayload)
    (rest : List UInt8) :
    ({} : FrameReader).accept ⟨true, false, f.opcode, true, f.payload⟩ rest =
      if f.fits then .message f.incoming { buffer := rest } else .violation := by
  have hmsg : f.payload.length ≤ maxMessageSize := Nat.le_trans h (by decide)
  cases f with
  | text line =>
    have hlen : (Text.Utf8.encode line.toList).length ≤ maxMessageSize := hmsg
    have hfit : (Text.Utf8.encode line.toList).length ≤ maxFramePayload := h
    simp [FrameReader.accept, ClientFrame.opcode, ClientFrame.payload, ClientFrame.incoming,
      ClientFrame.fits, Opcode.isControl, hlen, hfit, completeMessage, Text.Utf8.encodeString,
      Text.Utf8.decode?_encode]
  | binary data =>
    have hlen : data.length ≤ maxMessageSize := hmsg
    have hfit : data.length ≤ maxFramePayload := h
    simp [FrameReader.accept, ClientFrame.opcode, ClientFrame.payload, ClientFrame.incoming,
      ClientFrame.fits, Opcode.isControl, hlen, hfit, completeMessage]
  | ping data | pong data =>
    -- a control frame: taken when it has at most 125 bytes
    rcases Nat.lt_or_ge 125 data.length with hd | hd
    · simp [FrameReader.accept, ClientFrame.opcode, ClientFrame.payload, ClientFrame.fits,
        Opcode.isControl, hd, Nat.not_le.2 hd]
    · simp [FrameReader.accept, ClientFrame.opcode, ClientFrame.payload, ClientFrame.incoming,
        ClientFrame.fits, Opcode.isControl, hd, Nat.not_lt.2 hd]
  | close payload =>
    rcases Nat.lt_or_ge 125 payload.length with hd | hd
    · simp [FrameReader.accept, ClientFrame.opcode, ClientFrame.payload, ClientFrame.fits,
        Opcode.isControl, hd, Nat.not_le.2 hd]
    · -- taken exactly when the payload is well-formed, on both sides
      simp only [FrameReader.accept, ClientFrame.opcode, ClientFrame.payload, ClientFrame.incoming,
        ClientFrame.fits, Opcode.isControl, hd, Nat.not_lt.2 hd, decide_true, decide_false,
        Bool.true_and, Bool.or_false, Bool.not_true, Bool.false_eq_true, if_false]
      rfl

/-- **A client frame read back.** From a reader with no message in progress, a client frame that
the reader takes is read as the message it carries, leaving the bytes after it; any other frame
breaks the protocol. -/
theorem FrameReader.step_clientFrame (f : ClientFrame) (rest : List UInt8) (hcap : f.Sendable) :
    ({ buffer := f.bytes ++ rest } : FrameReader).step =
      if f.fits then .message f.incoming { buffer := rest } else .violation := by
  simp only [FrameReader.step, readFrame_clientFrame f rest hcap]
  by_cases h : maxFramePayload < f.payload.length
  · have hfit : f.fits = false := by
      by_contra hfit
      exact Nat.lt_irrefl _ (Nat.lt_of_lt_of_le h
        (ClientFrame.length_le_of_fits (Bool.not_eq_false _ ▸ hfit)))
    rw [if_pos h, hfit]
    rfl
  · rw [if_neg h]
    exact FrameReader.accept_clientFrame (Nat.le_of_not_lt h) rest

/-! ## Reading frame after frame -/

/-- A frame read off the buffer takes the bytes it was read from. -/
theorem FrameReader.accept_buffer {r r' : FrameReader} {f : Frame} {rest : List UInt8}
    (h : (∃ m, r.accept f rest = .message m r') ∨ r.accept f rest = .fragment r') :
    r'.buffer = rest := by
  -- every reader `accept` gives back is the old one with the buffer cut to `rest`
  obtain ⟨m, h⟩ | h := h <;>
  · unfold FrameReader.accept at h
    dsimp only at h
    repeat' split at h
    all_goals (cases h <;> rfl)

/-- Every message or fragment read takes bytes off the buffer. -/
theorem FrameReader.step_buffer_lt {r r' : FrameReader}
    (h : (∃ m, r.step = .message m r') ∨ r.step = .fragment r') :
    r'.buffer.length < r.buffer.length := by
  unfold FrameReader.step at h
  split at h
  · next => simp at h
  · next => simp at h
  · next f rest hread =>
    rw [FrameReader.accept_buffer h]
    exact readFrame_rest_length hread

/-- Reading does not depend on the fuel, as long as there is a unit of it for every byte. -/
theorem FrameReader.readAll_congr {n m : Nat} {r : FrameReader} (hn : r.buffer.length < n)
    (hm : r.buffer.length < m) : FrameReader.readAll n r = FrameReader.readAll m r := by
  induction n generalizing m r with
  | zero => exact absurd hn (Nat.not_lt_zero _)
  | succ n ih =>
    obtain ⟨m, rfl⟩ : ∃ k, m = k + 1 := ⟨m - 1, by omega⟩
    simp only [FrameReader.readAll]
    cases hs : r.step with
    | wait => rfl
    | violation => rfl
    | fragment r' =>
      have hlt := FrameReader.step_buffer_lt (.inr hs)
      exact ih (by omega) (by omega)
    | message msg r' =>
      have hlt := FrameReader.step_buffer_lt (.inl ⟨msg, hs⟩)
      simp only
      rw [ih (m := m) (by omega) (by omega)]

theorem FrameReader.readAll_message {n : Nat} {r r' : FrameReader} {m : Incoming}
    (h : r.step = .message m r') :
    FrameReader.readAll (n + 1) r = (FrameReader.readAll n r').cons m := by
  simp only [FrameReader.readAll, h]

theorem FrameReader.readAll_violation {n : Nat} {r : FrameReader} (h : r.step = .violation) :
    FrameReader.readAll (n + 1) r = ⟨[], none⟩ := by
  simp only [FrameReader.readAll, h]

/-- **Reading is frame by frame.** Bytes that start with a sendable client frame read, from a
reader before any frame, as that frame's message and then the rest, when the reader takes the
frame; otherwise they break the protocol at once. -/
theorem FrameReader.read_clientFrame (f : ClientFrame) (rest : List UInt8) (hcap : f.Sendable) :
    ({} : FrameReader).read (f.bytes ++ rest) =
      if f.fits then (({} : FrameReader).read rest).cons f.incoming else ⟨[], none⟩ := by
  have hstep := FrameReader.step_clientFrame f rest hcap
  have hbytes : 2 ≤ f.bytes.length := by simp [ClientFrame.bytes]
  simp only [FrameReader.read, List.nil_append, List.length_nil, Nat.zero_add]
  by_cases hf : f.fits
  · -- the frame's message, then the rest with the fuel it needs
    rw [if_pos hf] at hstep
    rw [FrameReader.readAll_message hstep, if_pos hf]
    congr 1
    exact FrameReader.readAll_congr (by simp; omega) (by simp)
  · rw [if_neg hf] at hstep
    rw [FrameReader.readAll_violation hstep, if_neg hf]

/-- **The library the hub is built with keeps the laws.** -/
theorem tungstenite_lawful : tungstenite.Lawful where
  read_nil := rfl
  read_frame f rest hcap := FrameReader.read_clientFrame f rest hcap
  sends_active := rfl
  close_sends c f h := by
    cases c with
    | active => exact ⟨[], (Option.some.inj h).symm⟩
    | closedByPeer reply => exact ⟨reply, (Option.some.inj h).symm⟩
    | closedByUs | terminated => cases h
  heard_text _ := rfl
  heard_close _ := rfl
  heard_answer c data f h := by
    have ha : (if c = .active then some (ServerFrame.pong data) else none) = some f := h
    split at ha
    · cases ha
      rfl
    · cases ha

end ChatHub.Web
