import ChatHub.Wire.Decoder
/-!
Reading a console connection: one byte stream that carries frames and text lines mixed.

A unit that starts with the version byte is a frame: a five-byte header and the payload it
announces. Any other unit is a line, read through its line feed but never further than
`lineLimit` bytes. A frame whose payload does not decode is skipped, and so is a line that is
blank once its bytes are read as UTF-8 (each bad run as a replacement character) and its
trailing carriage returns and line feeds are cut. Reading stops at the first fault.

When the bytes run out, the source either ends or fails with an error of its own. Where that
happens decides the fault: between units and inside a line it is the source's error (or
`connectionClosed` at a clean end); inside a frame an unexpected end counts as the close of
the connection.

Main statement: every unit read takes at least one byte, so reading a stream to its end takes
at most as many units as the stream has bytes.
-/
namespace ChatHub.Stream

open Wire Text

/-- The kinds of error a byte source can report. -/
inductive IoKind where
  | other
  | unexpectedEof
  | connectionReset
  | brokenPipe
  | timedOut
  | invalidData
  | interrupted
  deriving DecidableEq, Repr

/-- An error of a byte source: its kind and its text. -/
structure IoError where
  kind : IoKind
  text : String
  deriving DecidableEq, Repr

/-- What a source reports once its bytes are used up. -/
inductive Ending where
  | eof
  | error (e : IoError)
  deriving DecidableEq, Repr

/-- The fault when the bytes run out between units or inside a line. -/
def Ending.fault : Ending → Fault
  | .eof => .connectionClosed
  | .error e => .io e.text

/-- The fault when the bytes run out inside a frame. -/
def Ending.shortFrame : Ending → Fault
  | .eof => .connectionClosed
  | .error e => if e.kind = .unexpectedEof then .connectionClosed else .io e.text

/-- One item a connection delivers. -/
inductive Inbound where
  | message (m : Message)
  | text (s : String)
  deriving DecidableEq, Repr

/-- The longest line, line feed included: one byte more than the largest payload. -/
def lineLimit : Nat := maxPayload + 1

/-- The bytes through the first line feed, but at most `n` of them, and the bytes after. -/
def takeLine : Nat → List UInt8 → List UInt8 × List UInt8
  | 0, bs => ([], bs)
  | _ + 1, [] => ([], [])
  | n + 1, b :: bs =>
    if b = 0x0A then ([b], bs)
    else
      let (line, rest) := takeLine n bs
      (b :: line, rest)

theorem takeLine_length (n : Nat) (bs : List UInt8) :
    (takeLine n bs).1.length + (takeLine n bs).2.length = bs.length := by
  induction n generalizing bs with
  | zero => simp [takeLine]
  | succ n ih =>
    cases bs with
    | nil => simp [takeLine]
    | cons b bs =>
      simp only [takeLine]
      split
      · simp only [List.length_cons, List.length_nil]
        omega
      · have := ih bs
        simp only [List.length_cons]
        omega

theorem takeLine_ne_nil (n : Nat) (b : UInt8) (bs : List UInt8) :
    (takeLine (n + 1) (b :: bs)).1 ≠ [] := by
  simp only [takeLine]
  split <;> simp

/-- The two kinds of unit on a console stream. -/
inductive Chunk where
  /-- The payload of a frame. -/
  | frame (payload : List UInt8)
  /-- The bytes of a line, its line feed included when it has one. -/
  | line (bytes : List UInt8)
  deriving DecidableEq, Repr

/-- Cuts a line off the bytes: through its line feed, at most `lineLimit` bytes. A line that
fills the limit without a line feed is too large; a line that runs into the end of the bytes
is a line when the source ends cleanly and the source's error otherwise. -/
def cutLine (bs : List UInt8) (ending : Ending) : Except Fault (Chunk × List UInt8) :=
  let cutAt := takeLine lineLimit bs
  if cutAt.1.getLast? = some 0x0A then .ok (.line cutAt.1, cutAt.2)
  else if cutAt.1.length = lineLimit then .error (.frameTooLarge lineLimit)
  else
    match ending with
    | .eof => .ok (.line cutAt.1, cutAt.2)
    | .error e => .error (.io e.text)

/-- Cuts the next unit off the bytes, or names the fault that stops reading. -/
def cut (bs : List UInt8) (ending : Ending) : Except Fault (Chunk × List UInt8) :=
  match bs with
  | [] => .error ending.fault
  | b :: rest =>
    if b = frameVersion then
      match rest with
      | h1 :: h2 :: h3 :: h4 :: body =>
        let length := valueBig [h1, h2, h3, h4]
        if maxPayload < length then .error (.frameTooLarge length)
        else if body.length < length then .error ending.shortFrame
        else .ok (.frame (body.take length), body.drop length)
      | _ => .error ending.shortFrame
    else cutLine (b :: rest) ending

theorem cutLine_length {b : UInt8} {tl rest : List UInt8} {e : Ending} {c : Chunk}
    (h : cutLine (b :: tl) e = .ok (c, rest)) : rest.length < (b :: tl).length := by
  have hl := takeLine_length lineLimit (b :: tl)
  have hne := takeLine_ne_nil (lineLimit - 1) b tl
  have hpos : 0 < (takeLine lineLimit (b :: tl)).1.length := List.length_pos_iff.2 hne
  unfold cutLine at h
  dsimp only at h
  split at h
  · simp only [Except.ok.injEq, Prod.mk.injEq] at h
    obtain ⟨-, rfl⟩ := h
    omega
  · split at h
    · simp at h
    · split at h
      · simp only [Except.ok.injEq, Prod.mk.injEq] at h
        obtain ⟨-, rfl⟩ := h
        omega
      · simp at h

theorem cut_length {bs rest : List UInt8} {e : Ending} {c : Chunk}
    (h : cut bs e = .ok (c, rest)) : rest.length < bs.length := by
  unfold cut at h
  split at h
  · simp at h
  · split at h
    · split at h
      · dsimp only at h
        split at h
        · simp at h
        · split at h
          · simp at h
          · simp only [Except.ok.injEq, Prod.mk.injEq] at h
            obtain ⟨-, rfl⟩ := h
            simp
            omega
      · simp at h
    · exact cutLine_length h

/-- A line's text: its bytes read as UTF-8 with replacement characters, without the carriage
returns and line feeds at its end. -/
def lineText (bs : List UInt8) : List Char :=
  ((Utf8.decodeLossy bs).reverse.dropWhile fun c => c = '\r' ∨ c = '\n').reverse

/-- A reader of a console stream: the bytes not yet read, how the source ends, and the
connection's binary decoder. -/
structure Reader where
  bytes : List UInt8
  ending : Ending := .eof
  decoder : Decoder := {}
  deriving Repr

/-- The outcome of reading one unit. -/
inductive Step where
  /-- The unit was an item. -/
  | item (i : Inbound) (r : Reader)
  /-- The unit was skipped. -/
  | skip (r : Reader)
  /-- Reading stopped with a fault. -/
  | stop (f : Fault) (r : Reader)

namespace Reader

/-- Reads one unit. -/
def step (r : Reader) : Step :=
  match cut r.bytes r.ending with
  | .error f => .stop f r
  | .ok (.frame p, rest) =>
    let read := r.decoder.readPayload p
    match read.1 with
    | some m => .item (.message m) { r with bytes := rest, decoder := read.2 }
    | none => .skip { r with bytes := rest, decoder := read.2 }
  | .ok (.line bs, rest) =>
    if isBlank (lineText bs) then .skip { r with bytes := rest }
    else .item (.text (String.ofList (lineText bs))) { r with bytes := rest }

theorem step_item_length {r r' : Reader} {i : Inbound} (h : r.step = .item i r') :
    r'.bytes.length < r.bytes.length := by
  unfold step at h
  split at h
  · simp at h
  · rename_i p rest hc
    have := cut_length hc
    dsimp only at h
    split at h <;> simp only [Step.item.injEq, reduceCtorEq] at h
    obtain ⟨-, rfl⟩ := h
    exact this
  · rename_i bs rest hc
    have := cut_length hc
    split at h <;> simp only [Step.item.injEq, reduceCtorEq] at h
    obtain ⟨-, rfl⟩ := h
    exact this

theorem step_skip_length {r r' : Reader} (h : r.step = .skip r') :
    r'.bytes.length < r.bytes.length := by
  unfold step at h
  split at h
  · simp at h
  · rename_i p rest hc
    have := cut_length hc
    dsimp only at h
    split at h <;> simp only [Step.skip.injEq, reduceCtorEq] at h
    subst h
    exact this
  · rename_i bs rest hc
    have := cut_length hc
    split at h <;> simp only [Step.skip.injEq, reduceCtorEq] at h
    subst h
    exact this

/-- Reads the next item, skipping the units that are none; or the fault that stops reading.
The reader after it is returned either way, since a skipped frame may have turned the
decoder off. -/
def next (r : Reader) : Except Fault Inbound × Reader :=
  match h : r.step with
  | .item i r' => (.ok i, r')
  | .skip r' =>
    have := step_skip_length h
    r'.next
  | .stop f r' => (.error f, r')
termination_by r.bytes.length

/-- Reads items until the first fault: each item with whether the decoder was still on after
it, then the fault, then the reader at the end. -/
def drain (r : Reader) : List (Inbound × Bool) × Fault × Reader :=
  match h : r.step with
  | .item i r' =>
    have := step_item_length h
    let (items, f, last) := r'.drain
    ((i, r'.decoder.enabled) :: items, f, last)
  | .skip r' =>
    have := step_skip_length h
    r'.drain
  | .stop f r' => ([], f, r')
termination_by r.bytes.length

end Reader

end ChatHub.Stream
