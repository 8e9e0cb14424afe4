import ChatHub.Proofs.GatewayServes
import ChatHub.Proofs.TextDelivery
import ChatHub.Proofs.ClientFrames
/-!
# ChatHub — a WebSocket session, frame by frame

Over any WebSocket library that keeps the laws (`WsLibrary.Lawful`), a client of the library that
the gateway creates, that sends its frames one at a time and then stops writing, with no other
handler running and no shutdown, changes the room exactly as its frames folded over a fresh web
connection `p` would (`foldFrames`): a text frame is a line from `p`, a binary frame a message from
`p` whenever the connection's one decoder reads one, and a ping or a pong, whatever it carries,
nothing. The fold stops at a close frame, at a frame the library does not take, or right after a
frame that leaves `p` closed; `p` is then disconnected, once, at that frame's time, or when the
client stops writing if nothing stopped it before.

* **`library_session`** — the gateway's room is then the fold's, disconnected, with `p`'s serving
  side gone; the client has been sent, as text frames in order, the line of every item the fold
  queued for `p` up to the first close request, and then the end of the connection; and the
  handler's end is the one end recorded.

Each frame is its own step, so the writer sends what a frame queued before the next frame is
read. Frames that reach the handler in one write are all read before the writer runs:

* **`Serving.write_text_close`** — with a library that sends no data once the client has closed,
  a text frame and a close frame written at once leave the client with none of the items the line
  queued, only the end of the connection (`login_close_write_drops_greeting`: with the library the
  hub is built with, a LOGIN's greeting is lost so).
-/
namespace ChatHub.Web

open Room

/-! ## The session as the room sees it -/

/-- What a frame from a client does to the room, for its connection `p` with the connection's
binary decoder `d`: a text frame is a line from `p`, a binary frame a message from `p` when the
decoder reads one, and any other frame nothing. -/
def frameStep (room : Room) (p : PeerId) (d : Wire.Decoder) (now : UInt64) :
    ClientFrame → Room × Wire.Decoder
  | .text line => (room.handleText p line now, d)
  | .binary data =>
    match d.readFrame data with
    | (some m, d') => (room.handleAt p m now, d')
    | (none, d') => (room, d')
  | _ => (room, d)

/-- A client's frames, each with its time, folded over the room for its connection `p` from the
decoder `d`, as the library `L` takes them: the room at the end, and the time of the frame that
ended the connection, if one did: a close frame, a frame the library does not take, or a frame
after which `p` is closed. -/
def foldFrames (L : WsLibrary) (p : PeerId) : Room → Wire.Decoder → List (ClientFrame × UInt64) →
    Room × Option UInt64
  | room, _, [] => (room, none)
  | room, d, (f, now) :: rest =>
    if f.isClose || !L.takes f then (room, some now)
    else if (frameStep room p d now f).1.registry.isClosed p then
      ((frameStep room p d now f).1, some now)
    else foldFrames L p (frameStep room p d now f).1 (frameStep room p d now f).2 rest

variable {L : WsLibrary}

/-- A lawful library reads a frame that a client of it sends on its own as the one message the
frame carries, or finds the protocol broken. -/
theorem WsLibrary.Lawful.read_single (hL : L.Lawful) {f : ClientFrame} (hcap : f.Sendable) :
    L.read L.stream (L.clientBytes f) =
      if L.takes f then ⟨[f.incoming], some L.stream⟩ else ⟨[], none⟩ := by
  have hread := hL.read_frame f [] hcap
  rw [List.append_nil, hL.read_nil] at hread
  rw [hread]
  rfl

namespace Gateway

/-- A library client's session: it is created at `start`, sends its frames, each at its time, and
then stops writing at `stop`. -/
def session (g : Gateway L) (start : UInt64) (frames : List (ClientFrame × UInt64)) (stop : UInt64) :
    Gateway L :=
  let (i, g) := g.create start .library
  let g := frames.foldl (fun g x => (g.perform x.2 (.send i x.1)).2) g
  (g.perform stop (.finishWriting i)).2

/-- The handler of `i` waits for the next frame, serving the room `R` with the decoder `d`: its
reader has read nothing yet, its writer has sent everything queued, and the client still
writes. -/
def Serving (g : Gateway L) (i : PeerId) (R : Room) (d : Wire.Decoder) : Prop :=
  g.Serves i R (R.queueOf i) [] L.stream .active d true

/-- The gateway after a frame that the room handled as `R`, leaving the decoder `d`: ended as
`R` disconnected at `now`, when the frame left the connection closed, and serving `R`
otherwise. -/
def Handled (g : Gateway L) (i : PeerId) (R : Room) (d : Wire.Decoder) (now : UInt64)
    (ends : List (Nat × Except String Unit)) : Prop :=
  if R.registry.isClosed i then g.Ended i (R.disconnect i now) (closingInbox (R.disconnect i now) i) ends
  else g.Serving i R d ∧ g.ends = ends

/-! ## Reading a frame -/

section Reading

variable {g : Gateway L} {i : PeerId} {R : Room} {sent q : List Outbound} {s : L.Stream}
  {c : Closing} {d : Wire.Decoder} {w : Bool}

@[simp] theorem handleAll_nil (now : UInt64) (i : Nat) (s : L.Stream) (g : Gateway L) :
    handleAll now i s [] g = g := rfl

@[simp] theorem afterReading_false (g : Gateway L) (i : Nat) (now : UInt64) :
    g.afterReading i now false = g := rfl

/-- A message read is handled, and the handler goes on to the next. -/
theorem handleAll_cons (h : g.Serves i R sent q s c d w) (now : UInt64) (s' : L.Stream)
    (m : Incoming) (ms : List Incoming) :
    handleAll now i s' (m :: ms) g = handleAll now i s' ms (g.handleIncoming i now m s' c d) := by
  simp only [handleAll, h.link, libraryLink, Link.running?, Option.bind_some]

/-- A reader that found the protocol broken ends a handler that runs. -/
theorem Serves.afterReading_true (h : g.Serves i R sent q s c d w) (now : UInt64) :
    g.afterReading i now true = g.finish i now (.ok ()) := by
  simp [afterReading, isRunning, h.link, libraryLink, Link.running?]

/-- A message that leaves the connection open lets the handler read on. -/
theorem afterMessage_of_open {g : Gateway L} {i : PeerId} (h : g.room.registry.isClosed i = false)
    (now : UInt64) : g.afterMessage i now = g := by
  unfold afterMessage
  rw [h]
  rfl

/-- After a message: the handler ends when the message closed the connection, and otherwise its
writer sends what was queued, none of it a close request, and it waits. -/
theorem Serves.wrapUp (hL : L.Lawful) (h : g.Serves i R sent q L.stream .active d true)
    (hq : R.registry.isClosed i = false → Outbound.close ∉ q) {ends : List (Nat × Except String Unit)}
    (hends : g.ends = ends) (now : UInt64) (n : Nat) :
    Handled ((g.afterMessage i now).flush.settle now n) i R d now ends := by
  subst hends
  have hreg : g.room.registry = R.registry := by rw [h.room]; rfl
  unfold Handled afterMessage
  rw [hreg]
  cases hc : R.registry.isClosed i
  · simp only [Bool.false_eq_true, if_false]
    obtain ⟨hs, hends⟩ := h.flush_settle hL (hq hc) now n
    rw [← h.queue] at hs
    exact ⟨hs, hends⟩
  · simp only [if_true]
    have he := h.finish hL (Or.inl rfl) now
    rw [he.flush_settle]
    exact he

/-- A message or a line from the connection: the room takes its step, and the handler goes on as
`wrapUp` says; a close request queued for the connection is queued only when the step closed
it. -/
theorem Serves.stepped (hL : L.Lawful) (h : g.Serves i R sent [] L.stream .active d true) {st : Step}
    (hpeer : st.peer = i) (hst : ∀ id now, st ≠ .disconnect id now)
    {ends : List (Nat × Except String Unit)} (hends : g.ends = ends) (now : UInt64) (n : Nat) :
    Handled ((({ g with room := g.room.step st } : Gateway L).afterMessage i now).flush.settle now n)
      i (R.step st) d now ends := by
  have hs := h.step st
  rw [List.nil_append] at hs
  refine hs.wrapUp hL (fun hopen hc => ?_) hends now n
  have hclosed := step_isClosed_of_close hst (hpeer ▸ h.accepts) (hpeer ▸ hc)
  rw [hpeer, hopen] at hclosed
  cases hclosed

/-! ### The message handled, by kind -/

section Incoming

variable (g : Gateway L) (i : PeerId) (now : UInt64) (s : L.Stream) (c : Closing) (d : Wire.Decoder)

theorem handleIncoming_text (line : String) :
    g.handleIncoming i now (.text line) s c d =
      ({ g.setHandler i (.running s c d) with
          room := (g.setHandler i (.running s c d)).room.step (.text i line now) } : Gateway L).afterMessage
        i now := rfl

theorem handleIncoming_binary (data : List UInt8) :
    g.handleIncoming i now (.binary data) s c d =
      match (d.readFrame data).1 with
      | some m =>
        ({ (g.setHandler i (.running s c d)).setHandler i (.running s c (d.readFrame data).2) with
            room := ((g.setHandler i (.running s c d)).setHandler i
              (.running s c (d.readFrame data).2)).room.handleAt i m now } : Gateway L).afterMessage i now
      | none =>
        ((g.setHandler i (.running s c d)).setHandler i (.running s c (d.readFrame data).2)).afterMessage
          i now := rfl

/-- A ping is answered as the library answers it, and a library client that still reads reports
nothing of the answer. -/
theorem handleIncoming_ping (hL : L.Lawful) {l : Link L}
    (hl : (g.setHandler i (.running s c d)).link? i = some l) (hk : l.kind = .library)
    (hr : l.reads = true) (data : List UInt8) :
    g.handleIncoming i now (.ping data) s c d = (g.setHandler i (.running s c d)).afterMessage i now := by
  unfold handleIncoming
  cases ha : L.answer c data with
  | none => simp only [ha]
  | some f => simp only [ha, hl, Link.hearFrame_answer hL hk hr ha, setLink_of_link? _ _ hl]

theorem handleIncoming_pong (data : List UInt8) :
    g.handleIncoming i now (.pong data) s c d = (g.setHandler i (.running s c d)).afterMessage i now :=
  rfl

theorem handleIncoming_close (payload : List UInt8) :
    g.handleIncoming i now (.close payload) s .active d =
      ((g.setHandler i (.running s .active d)).setHandler i
        (.running s (.closedByPeer (L.closeReply payload)) d)).finish i now (.ok ()) := rfl

end Incoming

/-- **A frame other than a close frame, read.** The handler takes the message the frame
carries as `frameStep` says, and goes on as `Handled` says. -/
theorem Serves.incoming (hL : L.Lawful) (h : g.Serves i R sent [] s .active d true) {f : ClientFrame}
    (hf : f.isClose = false) (now : UInt64) (n : Nat) :
    Handled ((g.handleIncoming i now f.incoming L.stream .active d).flush.settle now n)
      i (frameStep R i d now f).1 (frameStep R i d now f).2 now g.ends := by
  have h₁ := h.setHandler L.stream .active d
  have hends₁ := ends_setHandler g i (.running L.stream .active d)
  cases f with
  | text line =>
    rw [ClientFrame.incoming, handleIncoming_text]
    exact h₁.stepped hL (rfl : (Step.text i line now).peer = i) (by simp) hends₁ now n
  | binary data =>
    have h₂ := h₁.setHandler L.stream .active (d.readFrame data).2
    have hends₂ : (((g.setHandler i (.running L.stream .active d)).setHandler i
        (.running L.stream .active (d.readFrame data).2))).ends = g.ends := by
      rw [ends_setHandler, hends₁]
    rw [ClientFrame.incoming, handleIncoming_binary, frameStep]
    -- the decoder reads a message, or nothing, and stays as it says either way
    cases hm : (d.readFrame data).1 with
    | some m =>
      have hd : d.readFrame data = (some m, (d.readFrame data).2) := by rw [← hm]
      rw [hd]
      exact h₂.stepped hL (rfl : (Step.message i m now).peer = i) (by simp) hends₂ now n
    | none =>
      have hd : d.readFrame data = (none, (d.readFrame data).2) := by rw [← hm]
      rw [hd]
      exact h₂.wrapUp hL (fun _ => List.not_mem_nil) hends₂ now n
  | ping data =>
    -- the answer goes out at once, and a library client reports nothing of it
    rw [ClientFrame.incoming, handleIncoming_ping g i now L.stream .active d hL h₁.link rfl rfl]
    exact h₁.wrapUp hL (fun _ => List.not_mem_nil) hends₁ now n
  | pong data =>
    rw [ClientFrame.incoming, handleIncoming_pong]
    exact h₁.wrapUp hL (fun _ => List.not_mem_nil) hends₁ now n
  | close payload => cases hf

/-- **A close frame, read.** The handler owes the client the reply to its close frame and ends:
the connection is disconnected, and the client gets no more lines. -/
theorem Serves.incoming_close (hL : L.Lawful) (h : g.Serves i R sent [] s .active d w)
    (payload : List UInt8) (now : UInt64) (n : Nat) :
    ((g.handleIncoming i now (.close payload) L.stream .active d).flush.settle now n).Ended
      i (R.disconnect i now) (closingInbox (R.disconnect i now) i) g.ends := by
  have h₁ := (h.setHandler L.stream .active d).setHandler L.stream
    (.closedByPeer (L.closeReply payload)) d
  have he := h₁.finish hL (Or.inr rfl) now
  rw [ends_setHandler, ends_setHandler] at he
  rw [handleIncoming_close, he.flush_settle]
  exact he

end Reading

/-! ## A frame, a session -/

section Session

variable {g : Gateway L} {i : PeerId} {R : Room} {d : Wire.Decoder}

/-- A client writes to a handler that waits: the library reads the bytes, the handler handles the
messages they complete in order, a broken protocol then ends it, and the writers run and the
handlers whose writers stopped end. -/
theorem Serving.clientWrites (h : g.Serving i R d) (now : UInt64) {bs : List UInt8}
    {ms : List Incoming} {next : Option L.Stream} (hread : L.read L.stream bs = ⟨ms, next⟩) :
    ∃ n, g.clientWrites i now bs =
      ((handleAll now i (next.getD L.stream) ms
        (g.setHandler i (.running (next.getD L.stream) .active d))).afterReading i now
          next.isNone).flush.settle now n := by
  refine ⟨(handleAll now i (next.getD L.stream) ms
    (g.setHandler i (.running (next.getD L.stream) .active d))).clients.size + 1, ?_⟩
  simp only [Gateway.clientWrites, h.link, libraryLink, Link.isEnded, Bool.not_false, Bool.and_self,
    if_true, receive, feedFrames, Link.running?, Option.bind_some, hread]

/-- **One frame.** A frame to a handler that waits: a close frame, or one the library does not
take, ends the handler, and the connection is disconnected at the frame's time; any other frame is
handled as `frameStep` says, and the handler goes on as `Handled` says. -/
theorem Serving.send (hL : L.Lawful) (h : g.Serving i R d) {f : ClientFrame} (hcap : f.Sendable)
    (now : UInt64) :
    if f.isClose || !L.takes f then
      (g.perform now (.send i f)).2.Ended i (R.disconnect i now) (closingInbox (R.disconnect i now) i)
        g.ends
    else Handled (g.perform now (.send i f)).2 i (frameStep R i d now f).1 (frameStep R i d now f).2
      now g.ends := by
  -- the library reads the frame's bytes as the one message they carry, or finds them broken
  have hread := hL.read_single hcap
  have h₀ := Serves.setHandler h L.stream .active d
  have hends₀ := ends_setHandler g i (.running L.stream .active d)
  cases htake : L.takes f
  · -- a frame the library does not take breaks the protocol, and the handler ends
    rw [htake, if_neg Bool.false_ne_true] at hread
    obtain ⟨n, hw⟩ := h.clientWrites now hread
    have he := h₀.finish hL (Or.inl rfl) now
    rw [hends₀] at he
    rw [if_pos (by simp)]
    apply Ended.perform_send_of_clientWrites
    rw [hw]
    simp only [Option.getD_none, Option.isNone_none, handleAll_nil, h₀.afterReading_true, he.flush_settle]
    exact he
  · rw [htake, if_pos rfl] at hread
    obtain ⟨n, hw⟩ := h.clientWrites now hread
    simp only [Option.getD_some, Option.isNone_some, handleAll_cons h₀, handleAll_nil,
      afterReading_false] at hw
    cases hclose : f.isClose
    · -- the message is handled, and the handler goes on
      have hhandled := h₀.incoming hL hclose now n
      rw [hends₀, ← hw] at hhandled
      rw [if_neg (by simp), perform]
      simp only [hclose, Bool.false_eq_true, if_false]
      exact hhandled
    · -- a close frame ends the handler, which owes the client the reply
      cases f with
      | close payload =>
        have he := h₀.incoming_close hL payload now n
        rw [ClientFrame.incoming] at hw
        rw [hends₀, ← hw] at he
        simp only [Bool.true_or, if_true]
        exact Ended.perform_send_of_clientWrites he
      | text _ | binary _ | ping _ | pong _ => cases hclose

/-- **The client stops writing.** A handler that waits finds the connection gone and ends, and
the connection is disconnected at that time. -/
theorem Serving.finishWriting (hL : L.Lawful) (h : g.Serving i R d) (now : UInt64) :
    (g.perform now (.finishWriting i)).2.Ended i (R.disconnect i now)
      (closingInbox (R.disconnect i now) i) g.ends := by
  have h₁ := (Serves.stopWriting h).setHandler L.stream .terminated d
  have he := h₁.finish hL (Or.inr rfl) now
  rw [ends_setHandler, ends_setLink] at he
  simp only [perform, h.link, libraryLink, Link.isEnded, Bool.not_false, Bool.and_self, if_true]
  have hl := link?_setLink_self g i h.link (libraryLink L.stream .active d false (R.queueOf i))
  simp only [receiveEnd, libraryLink] at hl ⊢
  rw [hl]
  exact he

/-- **A fresh library client** waits for its first frame, serving the room with its new
connection: the connection is the room's next one, and nothing has been queued for it. -/
theorem create_serving (hstop : g.stopping = false) (hsize : g.clients.size = g.room.peers.size)
    (hquiet : ∀ j, g.isRunning j = false) (hr : g.room.registry.Consistent) (now : UInt64) :
    (g.create now .library).1 = g.room.peers.size ∧
      (g.create now .library).2.Serving g.room.peers.size (g.room.connect defaultAddr .webSocket).2 {} ∧
      (g.create now .library).2.ends = g.ends := by
  set R₀ := (g.room.connect defaultAddr .webSocket).2 with hR₀
  have hpeer : R₀.peer? g.room.peers.size = some { addr := defaultAddr, terminal := .webSocket } := by
    simp [hR₀, connect, Room.peer?]
  have hq : R₀.queueOf g.room.peers.size = [] := by simp [queueOf, hpeer]
  set L₀ : Link L := { kind := .library, handler := .running L.stream .active {} } with hL₀
  set G₁ : Gateway L := { g with room := R₀, clients := g.clients.push (.web L₀) } with hG₁
  have hcreate : g.create now .library = (g.room.peers.size, G₁) := by
    simp [create, hstop, hG₁, hR₀, hL₀, connect]
  have hlink : ∀ j, G₁.link? j =
      if j = g.room.peers.size then some (libraryLink L.stream .active {} true (R₀.queueOf j))
      else g.link? j := by
    intro j
    by_cases hj : j = g.room.peers.size
    · subst hj
      have hget : (g.clients.push (.web L₀))[g.room.peers.size]? = some (.web L₀) := by
        rw [← hsize]
        exact Array.getElem?_push_size
      simp [link?, hG₁, hget, hq, libraryLink, L₀]
    · simp [link?, hG₁, Array.getElem?_push, hsize, hj]
  rw [hcreate]
  refine ⟨rfl, ⟨fun j hj => ?_, hr, by simp [Room.accepts, hpeer], ?_, by simp [hq], by simp [hq],
    by rw [hlink, if_pos rfl]⟩, rfl⟩
  · simp only [isRunning, hlink, if_neg hj]
    exact hquiet j
  · rw [← hq]
    exact (setQueue_queueOf R₀ _).symm

/-- **A run of frames.** From a handler that waits, the frames, each sent on its own, and the
client's stopping to write leave the handler ended, with the connection disconnected once: at the
frame that ended the fold, or at `stop`. -/
theorem Serving.run (hL : L.Lawful) (h : g.Serving i R d) (frames : List (ClientFrame × UInt64))
    (hcap : ∀ x ∈ frames, x.1.Sendable) (stop : UInt64) :
    ((frames.foldl (fun g x => (g.perform x.2 (.send i x.1)).2) g).perform stop
      (.finishWriting i)).2.Ended i
      ((foldFrames L i R d frames).1.disconnect i ((foldFrames L i R d frames).2.getD stop))
      (closingInbox ((foldFrames L i R d frames).1.disconnect i
        ((foldFrames L i R d frames).2.getD stop)) i)
      g.ends := by
  -- induction on the frames, carrying `Serving` while the fold goes on
  induction frames generalizing g R d with
  | nil => exact h.finishWriting hL stop
  | cons x rest ih =>
    obtain ⟨f, now⟩ := x
    have hsend := h.send hL (hcap (f, now) List.mem_cons_self) now
    have hrest : ∀ x ∈ rest, x.1.Sendable := fun x hx => hcap x (List.mem_cons_of_mem _ hx)
    rw [List.foldl_cons]
    by_cases hend : (f.isClose || !L.takes f) = true
    · -- the frame ends the handler; the frames after it change nothing
      rw [if_pos hend] at hsend
      simp only [foldFrames, if_pos hend, Option.getD_some]
      exact (hsend.foldl_send rest).perform_finishWriting stop
    · rw [if_neg hend] at hsend
      unfold Handled at hsend
      by_cases hclosed : (frameStep R i d now f).1.registry.isClosed i = true
      · -- the room closed the connection at this frame
        rw [if_pos hclosed] at hsend
        simp only [foldFrames, if_neg hend, if_pos hclosed, Option.getD_some]
        exact (hsend.foldl_send rest).perform_finishWriting stop
      · rw [if_neg hclosed] at hsend
        obtain ⟨hs, hends⟩ := hsend
        simp only [foldFrames, if_neg hend, if_neg hclosed]
        rw [← hends]
        exact ih hs hrest

end Session

theorem session_eq (g : Gateway L) (start : UInt64) (frames : List (ClientFrame × UInt64))
    (stop : UInt64) :
    g.session start frames stop =
      ((frames.foldl (fun g' x => (g'.perform x.2 (.send (g.create start .library).1 x.1)).2)
        (g.create start .library).2).perform stop (.finishWriting (g.create start .library).1)).2 :=
  rfl

/-- **A library client's session.** Over a library that keeps the laws, a gateway with no
shutdown, no handler running and a consistent room creates a library client `p`, which sends its
frames one at a time and then stops writing. The room ends as the frames folded over `p` leave it,
with `p` disconnected once, at the frame that ended the fold or at `stop`, and with `p`'s queue
taken by its writer; the client has been sent the line of every item queued for `p` up to the
first close request, and then the end of the connection; and `p`'s handler has ended once,
without error. -/
theorem library_session (hL : L.Lawful) {g : Gateway L} (hstop : g.stopping = false)
    (hsize : g.clients.size = g.room.peers.size) (hquiet : ∀ j, g.isRunning j = false)
    (hr : g.room.registry.Consistent) (start stop : UInt64) (frames : List (ClientFrame × UInt64))
    (hcap : ∀ x ∈ frames, x.1.Sendable) :
    let p := g.room.peers.size
    let fold := foldFrames L p (g.room.connect defaultAddr .webSocket).2 {} frames
    let F := fold.1.disconnect p (fold.2.getD stop)
    (g.session start frames stop).room = F.detach p ∧
      ((g.session start frames stop).link? p).map Link.inbox =
        some (textDeliveries ((F.queueOf p).takeWhile (· ≠ Outbound.close)) ++ [.closed]) ∧
      (g.session start frames stop).ends = g.ends ++ [(p, .ok ())] := by
  intro p fold F
  obtain ⟨hi, hs, hends⟩ := create_serving hstop hsize hquiet hr start
  have he := hs.run hL frames hcap stop
  rw [hends] at he
  rw [session_eq, hi]
  obtain ⟨l, hl, -, hinbox⟩ := he.link
  refine ⟨he.room, ?_, he.ends_eq⟩
  rw [hl, Option.map_some, hinbox, closingInbox]

/-- A client of the library the hub is built with logs in, pings with a payload and closes with
code 1000. -/
theorem library_session_login :
    tungstenite.Lawful ∧ ({} : Gateway tungstenite).stopping = false ∧
      ({} : Gateway tungstenite).clients.size = ({} : Gateway tungstenite).room.peers.size ∧
      (∀ j, ({} : Gateway tungstenite).isRunning j = false) ∧
      ({} : Gateway tungstenite).room.registry.Consistent ∧
      (∀ x ∈ [(ClientFrame.text "[LOGIN][1][ann]", (1 : UInt64)), (.ping [1, 2, 3], 2),
        (.close [3, 232], 3)], x.1.Sendable) ∧
      let frames := [(ClientFrame.text "[LOGIN][1][ann]", (1 : UInt64)), (.ping [1, 2, 3], 2),
        (.close [3, 232], 3)]
      let fold := foldFrames tungstenite 0 (({} : Room).connect defaultAddr .webSocket).2 {} frames
      let F := fold.1.disconnect 0 (fold.2.getD 4)
      (({} : Gateway tungstenite).session 0 frames 4).room = F.detach 0 ∧
        ((({} : Gateway tungstenite).session 0 frames 4).link? 0).map Link.inbox =
          some (textDeliveries ((F.queueOf 0).takeWhile (· ≠ Outbound.close)) ++ [.closed]) ∧
        (({} : Gateway tungstenite).session 0 frames 4).ends = [(0, .ok ())] := by
  have hquiet : ∀ j, ({} : Gateway tungstenite).isRunning j = false := fun j => by
    simp [isRunning, link?]
  have hcap : ∀ x ∈ [(ClientFrame.text "[LOGIN][1][ann]", (1 : UInt64)), (.ping [1, 2, 3], 2),
      (.close [3, 232], 3)], x.1.Sendable := by decide
  exact ⟨tungstenite_lawful, rfl, rfl, hquiet, Room.Registry.consistent_empty, hcap,
    library_session tungstenite_lawful rfl rfl hquiet Room.Registry.consistent_empty 0 4 _ hcap⟩

/-! ## Two frames in one write -/

/-- **A close frame in the same write drops what came before it.** Over a library that sends no
data once the client has closed, when a text frame and a close frame reach a handler that waits in
one write, the handler reads both before its writer runs: the line is a step of the room and, when
that leaves the connection open, the close frame ends the handler, whose writer answers it at the
first item queued and stops. The client gets none of the items the line queued. -/
theorem Serving.write_text_close (hL : L.Lawful) (hsend : ∀ reply, L.sends (.closedByPeer reply) = false)
    {g : Gateway L} {i : PeerId} {R : Room} {d : Wire.Decoder} (h : g.Serving i R d) {line : String}
    (htext : L.takes (.text line) = true) (hclose : L.takes (.close []) = true)
    (hcap : (ClientFrame.text line).Sendable) (now : UInt64)
    (hopen : (R.handleText i line now).registry.isClosed i = false) :
    (g.perform now (.write i (L.clientBytes (.text line) ++ L.clientBytes (.close [])))).2.Ended i
      ((R.handleText i line now).disconnect i now) (textDeliveries (R.queueOf i) ++ [.closed])
      g.ends := by
  -- the library reads the text frame and then the close frame
  have hread : L.read L.stream (L.clientBytes (.text line) ++ L.clientBytes (.close [])) =
      ⟨[.text line, .close []], some L.stream⟩ := by
    have hc := hL.read_single (f := .close []) (by decide)
    rw [hclose, if_pos rfl] at hc
    rw [hL.read_frame _ _ hcap, htext, if_pos rfl, hc]
    rfl
  obtain ⟨n, hw⟩ := h.clientWrites now hread
  show (g.clientWrites i now (L.clientBytes (.text line) ++ L.clientBytes (.close []))).Ended i
    ((R.handleText i line now).disconnect i now) (textDeliveries (R.queueOf i) ++ [.closed]) g.ends
  have h₀ := Serves.setHandler h L.stream .active d
  -- the text frame is handled first: its line is a step of the room, which leaves it open
  simp only [Option.getD_some, Option.isNone_some, handleAll_cons h₀, handleIncoming_text,
    afterReading_false] at hw
  have h₁ := (h₀.setHandler L.stream .active d).step (.text i line now)
  rw [afterMessage_of_open (by rw [h₁.room, registry_setQueue]; exact hopen),
    handleAll_cons h₁, handleAll_nil, handleIncoming_close] at hw
  -- the close frame ends the handler, which owes the client the reply
  have he := ((h₁.setHandler L.stream .active d).setHandler L.stream
    (.closedByPeer (L.closeReply [])) d).finish_replying hL (hsend _) now
  rw [hw, he.flush_settle]
  exact ⟨he.quiet, he.room, he.link, by rw [he.ends_eq]; simp only [ends_setHandler]⟩

/-- A client of the library the hub is built with that writes its LOGIN and its close frame at
once is never sent its greeting: the room queues the greeting for it, and the client sees only the
end of the connection. -/
theorem login_close_write_drops_greeting :
    ((({} : Room).connect defaultAddr .webSocket).2.handleText 0 "[LOGIN][0][ann]" 1).queueOf 0 =
        [.text (Line.encode (Message.system 1 "connected to server..." 1))] ∧
      (((({} : Gateway tungstenite).create 0 .library).2.perform 1 (.write 0
        ((ClientFrame.text "[LOGIN][0][ann]").bytes ++ (ClientFrame.close []).bytes))).2.link? 0).map
        Link.inbox = some [.closed] := by
  have hdecode : Line.decode "[LOGIN][0][ann]" = some { command := .login, sender := "ann" } := by
    decide +kernel
  -- the LOGIN pushes its greeting to a connection that takes it, so nobody is evicted
  have hlogin := handleAt_of_quiet (({} : Room).connect defaultAddr .webSocket).2 0
    { command := .login, sender := "ann" } 1 rfl rfl rfl
  have hroom : (({} : Room).connect defaultAddr .webSocket).2.handleText 0 "[LOGIN][0][ann]" 1 =
      (({} : Room).connect defaultAddr .webSocket).2.handleAt 0
        { command := .login, sender := "ann" } 1 := by
    simp only [Room.handleText, hdecode]
  rw [hlogin] at hroom
  have hquiet : ∀ j, ({} : Gateway tungstenite).isRunning j = false := fun j => by
    simp [isRunning, link?]
  obtain ⟨-, hs, -⟩ := create_serving rfl rfl hquiet Room.Registry.consistent_empty 0
  have hopen : ((({} : Room).connect defaultAddr .webSocket).2.handleText 0 "[LOGIN][0][ann]"
      1).registry.isClosed 0 = false := by
    rw [hroom]
    rfl
  have he := hs.write_text_close tungstenite_lawful (fun _ => rfl) (by decide) rfl (by decide) 1
    hopen
  -- the new client is the room's first connection
  rw [show ({} : Gateway tungstenite).room.peers.size = 0 from rfl] at he
  obtain ⟨l, hl, -, hinbox⟩ := he.link
  refine ⟨by rw [hroom]; rfl, ?_⟩
  change ((((({} : Gateway tungstenite).create 0 .library).2.perform 1 (.write 0
    (tungstenite.clientBytes (.text "[LOGIN][0][ann]") ++
      tungstenite.clientBytes (.close [])))).2.link? 0).map Link.inbox = some [.closed])
  rw [hl, Option.map_some, hinbox]
  rfl

end Gateway

end ChatHub.Web
