import ChatHub.Proofs.RoomQueues
import ChatHub.Web.Gateway
/-!
# ChatHub — the writer of a web client

Next to each running handler of the gateway runs its writer, which takes the items queued for
the connection and sends each one's line as a text frame. This module gives the writer and the
gateway's bookkeeping around it their lemmas, over any library that keeps the laws:

* **`writeItems_open`** — to a client of the library that still reads, while nobody has closed,
  the writer sends the line of every item when none is a close request;
* **`writeItems_closing`** — when one is, it sends the lines before it and closes its side, and
  the client is left with those lines and the end of the connection;
* **`writeItems_stop`** — a writer that meets a close request, or can no longer send, stops at
  once;
* **`flush_of_alone`** — when no other handler runs, running the writers is running the one
  writer of the handler that does;
* **`settle_of_quiet`** — when no running handler's writer has stopped, no handler ends after the
  writers have run.
-/
namespace ChatHub.Web

open Room

variable {L : WsLibrary}

/-- What a library client reports of items sent as text frames: the line of each. -/
def textDeliveries (items : List Outbound) : List Delivery :=
  (items.filterMap itemLine?).map .text

@[simp] theorem textDeliveries_nil : textDeliveries [] = [] := rfl

theorem textDeliveries_append (a b : List Outbound) :
    textDeliveries (a ++ b) = textDeliveries a ++ textDeliveries b := by
  simp [textDeliveries]

/-! ## What a library client hears -/

/-- Seeing the end of the connection twice, with a change of handler between, is seeing it
once. -/
theorem Link.seeEnd_seeEnd (l : Link L) (h : Handler L) :
    { l.seeEnd with handler := h }.seeEnd = { l with handler := h }.seeEnd := by
  unfold Link.seeEnd
  cases hs : l.sawEnd <;> simp [hs]

section Library

variable {l : Link L} (hL : L.Lawful) (hk : l.kind = .library) (hr : l.reads = true)
include hL hk hr

theorem Link.hearFrame_text (line : String) :
    l.hearFrame (.text line) = some { l with inbox := l.inbox ++ [.text line] } := by
  simp [Link.hearFrame, hk, hr, hL.heard_text]

theorem Link.hearFrame_close (payload : List UInt8) : l.hearFrame (.close payload) = some l.seeEnd := by
  simp [Link.hearFrame, hk, hr, hL.heard_close]

/-- A library client reports nothing of the answer to a ping. -/
theorem Link.hearFrame_answer {c : Closing} {data : List UInt8} {f : ServerFrame}
    (ha : L.answer c data = some f) : l.hearFrame f = some l := by
  simp [Link.hearFrame, hk, hr, hL.heard_answer c data f ha]

/-- Closing its side leaves a library client with what it got and, at most, the end of the
connection. -/
theorem Link.closeSide_seeEnd (c : Closing) (h : Handler L) :
    { (l.closeSide c).1 with handler := h }.seeEnd = { l with handler := h }.seeEnd := by
  unfold Link.closeSide
  split
  · next f c' hc =>
    -- the library sends at most a close frame, which the client reports as the end
    obtain ⟨payload, rfl⟩ := hL.close_sends c f (by rw [hc])
    rw [Link.hearFrame_close hL hk hr, Option.getD_some, Link.seeEnd_seeEnd]
  · rfl

/-- A writer that meets a close request, or can no longer send, stops at once and closes its
side, leaving the client with what it got and the end. -/
theorem writeItems_stop {c : Closing} {o : Outbound} (rest : List Outbound)
    (hstop : itemLine? o = none ∨ L.sends c = false) (h : Handler L) :
    { (writeItems l c (o :: rest)).1 with handler := h }.seeEnd = { l with handler := h }.seeEnd ∧
      (writeItems l c (o :: rest)).2.2 = false := by
  have hw : writeItems l c (o :: rest) = l.stopWriting c := by
    rcases hstop with hnone | hsend
    · simp [writeItems, hnone]
    · cases hline : itemLine? o <;> simp [writeItems, hline, hsend]
  rw [hw]
  exact ⟨Link.closeSide_seeEnd hL hk hr c h, rfl⟩

/-- While nobody has closed, the writer sends an item's line as a text frame, which the client
reports, and goes on with the rest. -/
theorem writeItems_line {o : Outbound} {line : String} (ho : itemLine? o = some line)
    (rest : List Outbound) :
    writeItems l .active (o :: rest) =
      writeItems { l with inbox := l.inbox ++ [.text line] } .active rest := by
  simp only [writeItems, ho, hL.sends_active, if_true, Link.hearFrame_text hL hk hr]

/-- **What the writer sends a library client while nobody has closed.** With no close request
among the items, the line of every item, each as a text frame, and the writer stays. -/
theorem writeItems_open (items : List Outbound) (hq : Outbound.close ∉ items) :
    writeItems l .active items = ({ l with inbox := l.inbox ++ textDeliveries items }, .active, true) := by
  induction items generalizing l with
  | nil => simp [writeItems]
  | cons o rest ih =>
    have hrest : Outbound.close ∉ rest := fun hc => hq (List.mem_cons_of_mem _ hc)
    -- every item before the end has a line, as none is a close request
    obtain ⟨line, ho⟩ : ∃ line, itemLine? o = some line := by
      cases o <;> simp_all [itemLine?]
    rw [writeItems_line hL hk hr ho, ih (l := { l with inbox := l.inbox ++ [.text line] }) hk hr hrest]
    simp [textDeliveries, ho]

/-- **What the writer sends a library client up to a close request.** The line of every item
before the first close request, each as a text frame; there the writer closes its side and
stops, and the client is left with those lines and the end of the connection. -/
theorem writeItems_closing (items : List Outbound) (hq : Outbound.close ∈ items) (h : Handler L) :
    { (writeItems l .active items).1 with handler := h }.seeEnd =
        { l with handler := h
                 inbox := l.inbox ++ textDeliveries (items.takeWhile (· ≠ Outbound.close)) }.seeEnd ∧
      (writeItems l .active items).2.2 = false := by
  induction items generalizing l with
  | nil => cases hq
  | cons o rest ih =>
    cases ho : itemLine? o with
    | none =>
      -- an item without a line is the close request itself
      have hc : o = .close := by cases o <;> simp_all [itemLine?]
      subst hc
      simpa using writeItems_stop hL hk hr (c := .active) rest (.inl ho) h
    | some line =>
      have hne : o ≠ .close := by rintro rfl; simp [itemLine?] at ho
      have hrest : Outbound.close ∈ rest := by simpa [Ne.symm hne] using hq
      rw [writeItems_line hL hk hr ho]
      simpa [textDeliveries, hne, ho] using ih (l := { l with inbox := l.inbox ++ [.text line] }) hk hr hrest

end Library

/-! ## The gateway's links -/

namespace Gateway

section Links

variable (g : Gateway L) (i : Nat)

@[simp] theorem room_setLink (l : Link L) : (g.setLink i l).room = g.room := rfl

@[simp] theorem ends_setLink (l : Link L) : (g.setLink i l).ends = g.ends := rfl

@[simp] theorem size_setLink (l : Link L) : (g.setLink i l).clients.size = g.clients.size :=
  Array.size_modify

@[simp] theorem link?_modifyPeer (f : Peer → Peer) : (g.modifyPeer i f).link? = g.link? := rfl

@[simp] theorem ends_modifyPeer (f : Peer → Peer) : (g.modifyPeer i f).ends = g.ends := rfl

@[simp] theorem size_modifyPeer (f : Peer → Peer) :
    (g.modifyPeer i f).clients.size = g.clients.size := rfl

@[simp] theorem link?_withEnds (ends : List (Nat × Except String Unit)) :
    ({ g with ends } : Gateway L).link? = g.link? := rfl

theorem link?_eq_some {l : Link L} : g.link? i = some l ↔ g.clients[i]? = some (.web l) := by
  unfold link?
  split <;> simp_all

theorem link?_setLink_self {l₀ : Link L} (h : g.link? i = some l₀) (l : Link L) :
    (g.setLink i l).link? i = some l := by
  rw [link?_eq_some] at h ⊢
  simp [setLink, Array.getElem?_modify, h]

theorem link?_setLink_ne (l : Link L) {j : Nat} (hj : j ≠ i) : (g.setLink i l).link? j = g.link? j := by
  simp [link?, setLink, Array.getElem?_modify, Ne.symm hj]

theorem setLink_of_link? {l : Link L} (h : g.link? i = some l) : g.setLink i l = g := by
  rw [link?_eq_some] at h
  have hclients : g.clients.modify i (fun _ => .web l) = g.clients := by
    refine Array.ext_getElem? fun j => ?_
    rw [Array.getElem?_modify]
    split
    · next hij => subst hij; simp [h]
    · rfl
  simp [setLink, hclients]

@[simp] theorem ends_setHandler (hd : Handler L) : (g.setHandler i hd).ends = g.ends := by
  unfold setHandler
  split <;> rfl

theorem setHandler_of_link? {l : Link L} (h : g.link? i = some l) (hd : Handler L) :
    g.setHandler i hd = g.setLink i { l with handler := hd } := by
  simp [setHandler, h]

theorem isRunning_setLink_ne (l : Link L) {j : Nat} (hj : j ≠ i) :
    (g.setLink i l).isRunning j = g.isRunning j := by
  simp [isRunning, link?_setLink_ne g i l hj]

theorem isRunning_modifyPeer (f : Peer → Peer) : (g.modifyPeer i f).isRunning = g.isRunning := rfl

end Links

/-! ## Running the writers -/

section Writers

variable (g : Gateway L)

theorem flushOne_of_not_running {j : Nat} (h : g.isRunning j = false) : g.flushOne j = g := by
  unfold flushOne
  unfold isRunning at h
  split
  · next l p hl hp =>
    rw [hl] at h
    simp only at h
    cases hrun : l.running? with
    | none => rfl
    | some x => simp [hrun] at h
  · rfl

theorem isRunning_flushOne_ne {i j : Nat} (hj : j ≠ i) :
    (g.flushOne i).isRunning j = g.isRunning j := by
  unfold flushOne
  split
  · split
    · split
      · simp only
        rw [isRunning_modifyPeer, isRunning_setLink_ne _ _ _ hj]
      · rfl
    · rfl
  · rfl

/-- **The writers of a lone handler.** When no handler but `i`'s runs, running the writers,
lowest number first, is running `i`'s. -/
theorem flush_of_alone {i : Nat} (halone : ∀ j ≠ i, g.isRunning j = false) (hi : i < g.clients.size) :
    g.flush = g.flushOne i := by
  -- the writers up to `n`: only `i`'s does anything, and it changes no other handler
  have hrange : ∀ n, (List.range n).foldl flushOne g = if i < n then g.flushOne i else g := by
    intro n
    induction n with
    | zero => simp
    | succ n ih =>
      rw [List.range_succ, List.foldl_append, ih, List.foldl_cons, List.foldl_nil]
      by_cases hn : n = i
      · subst hn
        simp
      · have hlt : i < n + 1 ↔ i < n := by omega
        have hquiet : (if i < n then g.flushOne i else g).isRunning n = false := by
          split
          · rw [isRunning_flushOne_ne _ hn]
            exact halone n hn
          · exact halone n hn
        rw [flushOne_of_not_running _ hquiet]
        simp only [hlt]
  rw [flush, hrange, if_pos hi]

/-- When no handler runs, running the writers changes nothing. -/
theorem flush_of_quiet (h : ∀ j, g.isRunning j = false) : g.flush = g := by
  have hall : ∀ js : List Nat, js.foldl flushOne g = g := by
    intro js
    induction js with
    | nil => rfl
    | cons j js ih => rw [List.foldl_cons, flushOne_of_not_running g (h j), ih]
  exact hall _

/-- The writer of a running handler whose connection takes items: it runs over the queue, the
handler keeps its reader and decoder with the writer's closing state, and the queue is taken. -/
theorem flushOne_running {i : Nat} {l : Link L} {s : L.Stream} {c : Closing}
    {d : Wire.Decoder} {p : Peer} (hl : g.link? i = some l) (hrun : l.handler = .running s c d)
    (hp : g.room.peer? i = some p) (hacc : p.accepting = true) :
    g.flushOne i =
      (g.setLink i { (writeItems l c p.queue).1 with
          handler := .running s (writeItems l c p.queue).2.1 d }).modifyPeer i
        fun x => { x with queue := [], accepting := (writeItems l c p.queue).2.2 } := by
  simp [flushOne, hl, hp, Link.running?, hrun, hacc]

theorem writerGone_of_not_running {j : Nat} (h : g.isRunning j = false) : g.writerGone j = false := by
  unfold writerGone
  unfold isRunning at h
  split
  · next l p hl hp =>
    rw [hl] at h
    simp [h]
  · rfl

/-- **No handler ends** after the writers have run when no running handler's writer has
stopped. -/
theorem settle_of_quiet (h : ∀ j, g.writerGone j = false) (now : UInt64) (fuel : Nat) :
    g.settle now fuel = g := by
  cases fuel with
  | zero => rfl
  | succ fuel =>
    have hnone : (List.range g.clients.size).find? g.writerGone = none :=
      List.find?_eq_none.2 fun j _ => by simp [h j]
    simp [settle, hnone]

end Writers

end Gateway

end ChatHub.Web
