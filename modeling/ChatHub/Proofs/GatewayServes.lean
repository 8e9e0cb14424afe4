import ChatHub.Proofs.GatewayWriter
/-!
# ChatHub — a lone handler and its room

When one library client's handler runs and no other does, the gateway keeps in step with the
room alone, over any library that keeps the laws. Two states say how:

* `Gateway.Serves` — the handler runs; the gateway's room is a room `R` whose queue for the
  connection has been taken by the writer, but for the items `q` queued since; the client has
  been sent the line of every item before those, none of them a close request;
* `Gateway.Ended` — the handler has ended; the gateway's room is a room `F` with the
  connection's serving side gone, and the client has been sent what the state names.

The lemmas take the first state through what a handler does:

* **`Serves.step`** — a step of the room keeps it, with the step's items for the connection
  added to `q`;
* **`Serves.flush_settle`** — the writer sends the lines of `q` and the handler waits, when no
  close request is queued;
* **`Serves.finish`** — a handler that ends disconnects its connection from the room, its writer
  sends the lines before the first close request and the close frame, and the gateway has
  `Ended` as the room after the disconnection, the client sent `closingInbox`;
* **`Serves.finish_replying`** — with a library that sends no data once the client has closed, a
  handler that ends owing the reply to the client's close frame sends that reply at the first
  item queued: the client gets none of `q`.

An ended handler stays so: no frame and no end of the client's bytes changes the gateway.
-/
namespace ChatHub.Web

open Room

variable {L : WsLibrary}

/-- A library client's link whose handler runs with the reader `s`, the closing state `c` and the
binary decoder `d`, that writes when `w` says so, and that has been sent the lines of the items
`sent`. -/
def libraryLink (s : L.Stream) (c : Closing) (d : Wire.Decoder) (w : Bool)
    (sent : List Outbound) : Link L :=
  { kind := .library, handler := .running s c d, writes := w, inbox := textDeliveries sent }

@[simp] theorem Link.handler_seeEnd (l : Link L) : l.seeEnd.handler = l.handler := by
  unfold Link.seeEnd
  split <;> rfl

namespace Gateway

/-- The gateway serves connection `i` of a library client as the room `R` has it: no other
handler runs; `R` is consistent and `i` takes items there; the gateway's room is `R` with `i`'s
queue holding only the items `q` queued since its writer last ran; and the client has been sent
the lines of the items before them, `sent`, none of them a close request. -/
structure Serves (g : Gateway L) (i : PeerId) (R : Room) (sent q : List Outbound) (s : L.Stream)
    (c : Closing) (d : Wire.Decoder) (w : Bool) : Prop where
  alone : ∀ j ≠ i, g.isRunning j = false
  consistent : R.registry.Consistent
  accepts : R.accepts i = true
  room : g.room = R.setQueue i q
  queue : R.queueOf i = sent ++ q
  open_sent : Outbound.close ∉ sent
  link : g.link? i = some (libraryLink s c d w sent)

/-- What a library client has been sent when its connection ended as the room `F` has it, with
its writer running to the end: the line of every item `F` queued for `i` up to the first close
request, then the end of the connection. -/
def closingInbox (F : Room) (i : PeerId) : List Delivery :=
  textDeliveries ((F.queueOf i).takeWhile (· ≠ Outbound.close)) ++ [.closed]

/-- The handler of connection `i` has ended as the room `F` has it, after the ends `ends`: no
handler runs; the gateway's room is `F` with `i`'s serving side gone; the client has been sent
`seen`; and `i`'s end is the one end recorded after `ends`. -/
structure Ended (g : Gateway L) (i : PeerId) (F : Room) (seen : List Delivery)
    (ends : List (Nat × Except String Unit)) : Prop where
  quiet : ∀ j, g.isRunning j = false
  room : g.room = F.detach i
  link : ∃ l, g.link? i = some l ∧ l.isEnded = true ∧ l.inbox = seen
  ends_eq : g.ends = ends ++ [(i, .ok ())]

/-! ## Serving -/

namespace Serves

variable {g : Gateway L} {i : PeerId} {R : Room} {sent q : List Outbound} {s : L.Stream}
  {c : Closing} {d : Wire.Decoder} {w : Bool}

theorem lt_size (h : g.Serves i R sent q s c d w) : i < g.clients.size :=
  (Array.getElem?_eq_some_iff.1 ((link?_eq_some g i).1 h.link)).1

/-- The gateway's connection `i`: `R`'s, with the queue `q`; it takes items. -/
theorem peer?_eq (h : g.Serves i R sent q s c d w) :
    ∃ p : Peer, g.room.peer? i = some { p with queue := q } ∧ p.accepting = true := by
  have hacc := h.accepts
  simp only [Room.accepts] at hacc
  cases hp : R.peer? i with
  | none => simp [hp] at hacc
  | some p =>
    simp only [hp, Option.any_some] at hacc
    refine ⟨p, ?_, hacc⟩
    rw [h.room, peer?_setQueue, hp]
    simp

/-- The handler takes another state; it still serves. -/
theorem setHandler (h : g.Serves i R sent q s c d w) (s' : L.Stream) (c' : Closing)
    (d' : Wire.Decoder) : (g.setHandler i (.running s' c' d')).Serves i R sent q s' c' d' w := by
  rw [setHandler_of_link? g i h.link]
  exact ⟨fun j hj => by rw [isRunning_setLink_ne _ _ _ hj]; exact h.alone j hj, h.consistent,
    h.accepts, h.room, h.queue, h.open_sent, link?_setLink_self g i h.link _⟩

/-- The client stops writing; the handler still serves. -/
theorem stopWriting (h : g.Serves i R sent q s c d w) :
    (g.setLink i (libraryLink s c d false sent)).Serves i R sent q s c d false :=
  ⟨fun j hj => by rw [isRunning_setLink_ne _ _ _ hj]; exact h.alone j hj, h.consistent, h.accepts,
    h.room, h.queue, h.open_sent, link?_setLink_self g i h.link _⟩

/-- **A step of the room keeps the gateway serving**, with the items the step queues for the
connection added to those its writer has not yet taken. -/
theorem step (h : g.Serves i R sent q s c d w) (st : Step) :
    ({ g with room := g.room.step st } : Gateway L).Serves i (R.step st) sent
      (q ++ sentTo (R.stepLog st).sends i) s c d w := by
  refine ⟨h.alone, step_consistent h.consistent st, by rw [accepts_step]; exact h.accepts, ?_, ?_,
    h.open_sent, h.link⟩
  · simp only [h.room, step_setQueue, h.accepts, if_true]
  · rw [queueOf_step, h.queue, h.accepts, if_pos rfl, List.append_assoc]

theorem writerGone_eq_false (h : g.Serves i R sent q s c d w) (j : Nat) : g.writerGone j = false := by
  by_cases hj : j = i
  · subst hj
    obtain ⟨p, hp, hacc⟩ := h.peer?_eq
    simp [writerGone, h.link, hp, hacc]
  · exact writerGone_of_not_running g (h.alone j hj)

/-- The writers run: only the handler's, which runs over the items queued since it last ran,
takes them, and leaves the connection taking items while it stays. -/
theorem flush_eq (h : g.Serves i R sent q s c d w) :
    g.flush = (g.setLink i { (writeItems (libraryLink s c d w sent) c q).1 with
        handler := .running s (writeItems (libraryLink s c d w sent) c q).2.1 d }).modifyPeer i
      fun x => { x with queue := [], accepting := (writeItems (libraryLink s c d w sent) c q).2.2 } := by
  obtain ⟨p, hp, hacc⟩ := h.peer?_eq
  rw [flush_of_alone g h.alone h.lt_size, flushOne_running g h.link rfl hp hacc]

/-- **The writer runs and the handler waits.** With no close request queued, the writer sends
the lines of the items queued since it last ran, takes them, and no handler ends. -/
theorem flush_settle (hL : L.Lawful) (h : g.Serves i R sent q s .active d w)
    (hq : Outbound.close ∉ q) (now : UInt64) (fuel : Nat) :
    (g.flush.settle now fuel).Serves i R (sent ++ q) [] s .active d w ∧
      (g.flush.settle now fuel).ends = g.ends := by
  have hwrite : writeItems (libraryLink s .active d w sent) .active q =
      ({ libraryLink s .active d w sent with inbox := textDeliveries sent ++ textDeliveries q },
        .active, true) :=
    writeItems_open hL rfl rfl q hq
  have hlink : { ({ libraryLink s .active d w sent with
      inbox := textDeliveries sent ++ textDeliveries q } : Link L) with
        handler := .running s .active d } = libraryLink s .active d w (sent ++ q) := by
    simp [libraryLink, textDeliveries_append]
  set g' := (g.setLink i (libraryLink s .active d w (sent ++ q))).modifyPeer i
    fun x => { x with queue := [], accepting := true } with hg'
  have hflush : g.flush = g' := by
    rw [h.flush_eq, hwrite]
    simp only
    rw [hlink]
  have hserves : g'.Serves i R (sent ++ q) [] s .active d w := by
    refine ⟨fun j hj => ?_, h.consistent, h.accepts, ?_, by rw [h.queue, List.append_nil], ?_, ?_⟩
    · rw [hg', isRunning_modifyPeer, isRunning_setLink_ne _ _ _ hj]
      exact h.alone j hj
    · simp only [hg', modifyPeer, room_setLink, h.room]
      exact take_setQueue h.accepts q
    · intro hc
      rcases List.mem_append.1 hc with hc | hc
      · exact h.open_sent hc
      · exact hq hc
    · rw [hg', link?_modifyPeer, link?_setLink_self g i h.link]
  rw [hflush, settle_of_quiet g' hserves.writerGone_eq_false]
  exact ⟨hserves, rfl⟩

/-- The closing states in which a finishing handler's writer sends what `closingInbox` says: it
still sends, or nothing was queued since it last ran, so that the first item it meets is the
request to close. -/
def Finishing (c : Closing) (q : List Outbound) : Prop :=
  c = .active ∨ q = []

/-- The client sees the end of the connection after its writer has stopped at a close request,
with the lines before the request. -/
theorem inbox_writeItems (hL : L.Lawful) (hc : Finishing c q) (rest : List Outbound) :
    (({ (writeItems (libraryLink s c d w sent) c (q ++ Outbound.close :: rest)).1 with
        handler := .ended } : Link L).seeEnd).inbox =
      textDeliveries (sent ++ (q ++ Outbound.close :: rest).takeWhile (· ≠ Outbound.close)) ++
        [.closed] ∧
    (writeItems (libraryLink s c d w sent) c (q ++ Outbound.close :: rest)).2.2 = false := by
  rcases hc with rfl | rfl
  · obtain ⟨hend, halive⟩ := writeItems_closing hL rfl rfl (l := libraryLink s .active d w sent)
      (q ++ Outbound.close :: rest) (List.mem_append_right _ List.mem_cons_self) .ended
    rw [hend]
    exact ⟨by simp [Link.seeEnd, libraryLink, textDeliveries_append], halive⟩
  · obtain ⟨hend, halive⟩ := writeItems_stop hL rfl rfl (l := libraryLink s c d w sent) (o := .close)
      rest (.inl rfl) .ended
    rw [List.nil_append, hend]
    exact ⟨by simp [Link.seeEnd, libraryLink], halive⟩

/-- **A handler that ends** disconnects its connection from the room, and its writer runs over
what was queued, which ends with the request to close: the gateway has `Ended` as the room after
the disconnection, with the client sent what the writer sent it and then the end. -/
theorem finish_with (h : g.Serves i R sent q s c d w) (now : UInt64) {seen : List Delivery}
    (hw : ∀ rest, (R.disconnect i now).queueOf i = sent ++ (q ++ Outbound.close :: rest) →
      (({ (writeItems (libraryLink s c d w sent) c (q ++ Outbound.close :: rest)).1 with
          handler := .ended } : Link L).seeEnd).inbox = seen ∧
        (writeItems (libraryLink s c d w sent) c (q ++ Outbound.close :: rest)).2.2 = false) :
    (g.finish i now (.ok ())).Ended i (R.disconnect i now) seen g.ends := by
  obtain ⟨rest, hrest⟩ := sentTo_disconnect h.consistent i now
  set g₁ : Gateway L := { g with room := g.room.disconnect i now } with hg₁
  -- the disconnection is a step of the room; its first item for `i` is the request to close
  have hs : g₁.Serves i (R.disconnect i now) sent (q ++ Outbound.close :: rest) s c d w := by
    have hstep := h.step (.disconnect i now)
    rw [hrest] at hstep
    exact hstep
  obtain ⟨hinbox, halive⟩ := hw rest hs.queue
  set W := writeItems (libraryLink s c d w sent) c (q ++ Outbound.close :: rest) with hW
  set g₂ := (g₁.setLink i { W.1 with handler := .running s W.2.1 d }).modifyPeer i
    fun x => { x with queue := [], accepting := W.2.2 } with hg₂
  have hflush : g₁.flush = g₂ := hs.flush_eq
  have hlink₂ : g₂.link? i = some { W.1 with handler := .running s W.2.1 d } := by
    rw [hg₂, link?_modifyPeer, link?_setLink_self g₁ i hs.link]
  have hfinish : g.finish i now (.ok ()) =
      { (g₂.modifyPeer i fun x => { x with queue := [], accepting := false }).setLink i
          { ({ W.1 with handler := .running s W.2.1 d } : Link L) with handler := .ended }.seeEnd with
        ends := g.ends ++ [(i, .ok ())] } := by
    unfold Gateway.finish
    simp only [h.link, libraryLink, Link.running?, Option.isSome_some, if_true]
    rw [← hg₁, hflush, link?_modifyPeer, hlink₂]
    rfl
  set E : Link L :=
    { ({ W.1 with handler := .running s W.2.1 d } : Link L) with handler := .ended }.seeEnd
  set X := (g₂.modifyPeer i fun x => { x with queue := [], accepting := false }).setLink i E with hX
  have hlinkX : X.link? i = some E := link?_setLink_self _ i (by rw [link?_modifyPeer]; exact hlink₂) E
  -- the handler's end only records itself: its clients, and so its links, are `X`'s
  have hlinkF : (g.finish i now (.ok ())).link? = X.link? := by
    rw [hfinish]
    rfl
  refine ⟨fun j => ?_, ?_, ⟨E, by rw [hlinkF, hlinkX], by simp [E, Link.isEnded], hinbox⟩,
    by rw [hfinish]⟩
  · simp only [isRunning, hlinkF]
    by_cases hj : j = i
    · subst hj
      simp [hlinkX, E, Link.running?]
    · rw [hX, link?_setLink_ne _ _ _ hj, link?_modifyPeer, hg₂, link?_modifyPeer,
        link?_setLink_ne _ _ _ hj]
      exact hs.alone j hj
  · -- the writer took the queue and stopped, and the handler's end took the connection
    calc (g.finish i now (.ok ())).room
        = ({ g₁.room with peers := g₁.room.peers.modify i fun x =>
            { x with queue := [], accepting := W.2.2 } } : Room).detach i := by
          rw [hfinish]
          rfl
      _ = (R.disconnect i now).detach i := by
          rw [hs.room]
          exact detach_take_setQueue _ _ _ _

/-- **A handler that ends**, whether its writer still sends, owes the reply to the client's
close frame, or has lost the connection with nothing queued: its writer sends the lines before
the first close request queued and stops, so the client has been sent `closingInbox`. -/
theorem finish (hL : L.Lawful) (h : g.Serves i R sent q s c d w) (hc : Finishing c q)
    (now : UInt64) :
    (g.finish i now (.ok ())).Ended i (R.disconnect i now) (closingInbox (R.disconnect i now) i)
      g.ends := by
  have hsent : ∀ o ∈ sent, decide (o ≠ Outbound.close) = true := by
    intro o ho
    simp only [ne_eq, decide_eq_true_eq]
    rintro rfl
    exact h.open_sent ho
  refine h.finish_with now fun rest hq => ⟨?_, (inbox_writeItems hL hc rest).2⟩
  rw [(inbox_writeItems hL hc rest).1, closingInbox, hq, List.takeWhile_append_of_pos hsent,
    textDeliveries_append]

/-- **A handler that owes the reply to the client's close frame**, with a library that sends no
data once the client has closed, sends the reply at the first item queued and ends: the client
gets none of the items queued since the writer last ran. -/
theorem finish_replying (hL : L.Lawful) {reply : List UInt8}
    (hsend : L.sends (.closedByPeer reply) = false)
    (h : g.Serves i R sent q s (.closedByPeer reply) d w) (now : UInt64) :
    (g.finish i now (.ok ())).Ended i (R.disconnect i now) (textDeliveries sent ++ [.closed])
      g.ends := by
  refine h.finish_with now fun rest _ => ?_
  -- whatever the first item is, the writer answers the close frame there and stops
  obtain ⟨o, rest', hsplit⟩ : ∃ o rest', q ++ Outbound.close :: rest = o :: rest' := by
    cases q with
    | nil => exact ⟨_, _, rfl⟩
    | cons o q => exact ⟨o, _, rfl⟩
  obtain ⟨hend, halive⟩ := writeItems_stop hL rfl rfl
    (l := libraryLink s (.closedByPeer reply) d w sent) (o := o) rest' (.inr hsend) .ended
  rw [hsplit, hend]
  exact ⟨by simp [Link.seeEnd, libraryLink], halive⟩

end Serves

/-! ## Ended -/

namespace Ended

variable {g : Gateway L} {i : PeerId} {F : Room} {seen : List Delivery}
  {ends : List (Nat × Except String Unit)}

/-- The writers and the handlers whose writers stopped: nothing runs, so nothing changes. -/
theorem flush_settle (h : g.Ended i F seen ends) (now : UInt64) (fuel : Nat) :
    g.flush.settle now fuel = g := by
  rw [flush_of_quiet g h.quiet, settle_of_quiet g fun j => writerGone_of_not_running g (h.quiet j)]

/-- The client's bytes no longer reach the ended handler. -/
theorem clientWrites (h : g.Ended i F seen ends) (now : UInt64) (bs : List UInt8) :
    g.clientWrites i now bs = g := by
  obtain ⟨l, hl, hend, -⟩ := h.link
  simp [Gateway.clientWrites, hl, hend]

/-- The client may stop writing: the link keeps its handler and what it got. -/
theorem setLink (h : g.Ended i F seen ends) {l l' : Link L} (hl : g.link? i = some l)
    (hh : l'.handler = l.handler) (hin : l'.inbox = l.inbox) : (g.setLink i l').Ended i F seen ends := by
  obtain ⟨l₀, hl₀, hend, hinbox⟩ := h.link
  rw [hl] at hl₀
  cases hl₀
  refine ⟨fun j => ?_, h.room, ⟨l', link?_setLink_self g i hl l', ?_, hin ▸ hinbox⟩, h.ends_eq⟩
  · by_cases hj : j = i
    · subst hj
      have hrun := h.quiet j
      simp only [isRunning, hl] at hrun
      simp only [isRunning, link?_setLink_self g j hl l', Link.running?, hh]
      simpa [Link.running?] using hrun
    · rw [isRunning_setLink_ne _ _ _ hj]
      exact h.quiet j
  · simpa [Link.isEnded, hh] using hend

/-- A frame sent, whatever the library made of it, leaves the handler ended when its bytes did. -/
theorem perform_send_of_clientWrites {f : ClientFrame} {now : UInt64}
    (he : (g.clientWrites i now (L.clientBytes f)).Ended i F seen ends) :
    (g.perform now (.send i f)).2.Ended i F seen ends := by
  -- a close frame also marks that the client no longer writes
  cases hf : f.isClose
  · simp only [Gateway.perform, hf, Bool.false_eq_true, if_false]
    exact he
  · obtain ⟨l, hl, -, -⟩ := he.link
    simp only [Gateway.perform, hf, hl, if_true]
    exact he.setLink hl rfl rfl

/-- **An ended handler stays ended**: a frame from the client changes nothing but, for a close
frame, that the client no longer writes. -/
theorem perform_send (h : g.Ended i F seen ends) (f : ClientFrame) (now : UInt64) :
    (g.perform now (.send i f)).2.Ended i F seen ends :=
  perform_send_of_clientWrites (by rw [h.clientWrites]; exact h)

/-- An ended handler stays ended over any frames from the client. -/
theorem foldl_send (h : g.Ended i F seen ends) (frames : List (ClientFrame × UInt64)) :
    (frames.foldl (fun g x => (g.perform x.2 (.send i x.1)).2) g).Ended i F seen ends := by
  induction frames generalizing g with
  | nil => exact h
  | cons x rest ih => exact ih (h.perform_send x.1 x.2)

/-- An ended handler stays ended when the client stops writing. -/
theorem perform_finishWriting (h : g.Ended i F seen ends) (now : UInt64) :
    (g.perform now (.finishWriting i)).2.Ended i F seen ends := by
  obtain ⟨l, hl, hend, -⟩ := h.link
  simp only [Gateway.perform, hl, hend, Bool.not_true, Bool.and_false, Bool.false_eq_true, if_false]
  exact h.setLink hl rfl rfl

end Ended

end Gateway

end ChatHub.Web
