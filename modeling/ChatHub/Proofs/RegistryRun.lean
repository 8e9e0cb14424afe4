import ChatHub.Room.Registry
import Mathlib.Data.Finset.Card
/-!
# ChatHub — the session registry along any run of calls

The registry is changed by four calls: a login, a logout, the release of a closed mark and the
record of a flower. Every other call only reads it. Starting from the empty registry and taking
the calls in any order, which covers any interleaving of the tasks that share it:

* **`Consistent`** — at most one session per connection, each closed mark kept once, and no
  connection both logged in and closed (`run_consistent`);
* **`ids_sublist_activations`** — the sessions stand in the order their connections became
  active, the latest activation counting;
* **`onLogin_answers`** and **`onLogout_answers`** — what a login and a logout return and do in
  a consistent registry: a login is refused exactly for a closed connection and replaces an
  existing session in place, a logout answers exactly for a logged-in connection and removes
  exactly its session.

These assemble into `registry_run`.
-/

namespace ChatHub.Room.Registry

/-! ## Runs of calls -/

/-- The connections with a session, in the order of the sessions. -/
def ids (r : Registry) : List PeerId :=
  r.active.map (·.peer)

/-- A call that can change the registry. -/
inductive Op where
  | login (id : PeerId) (addr : String) (own : Terminal) (msg : Message)
  | logout (id : PeerId)
  | release (id : PeerId)
  | recordFlower (id : PeerId) (time : UInt64)

/-- The registry after a call; a refused login and an unanswered logout leave it as it was. -/
def apply (r : Registry) : Op → Registry
  | .login id addr own msg => ((r.onLogin id addr own msg).map (·.2)).getD r
  | .logout id => ((r.onLogout id).map (·.2)).getD r
  | .release id => r.release id
  | .recordFlower id time => r.recordFlower id time

/-- The registry after a run of calls. -/
def run (r : Registry) (ops : List Op) : Registry :=
  ops.foldl apply r

/-- The connections that a call makes active: those with a session after it and not before. -/
def becameActive (r : Registry) (op : Op) : List PeerId :=
  (r.apply op).ids.filter (· ∉ r.ids)

/-- The connections made active along a run, in order, each as often as it became active. -/
def activations (r : Registry) : List Op → List PeerId
  | [] => []
  | op :: ops => r.becameActive op ++ activations (r.apply op) ops

@[simp] theorem run_nil (r : Registry) : r.run [] = r := rfl

theorem run_concat (r : Registry) (ops : List Op) (op : Op) :
    r.run (ops ++ [op]) = (r.run ops).apply op := by
  simp [run, List.foldl_append]

theorem activations_concat (r : Registry) (ops : List Op) (op : Op) :
    r.activations (ops ++ [op]) = r.activations ops ++ (r.run ops).becameActive op := by
  induction ops generalizing r with
  | nil => simp [activations]
  | cons op' ops ih => simp [activations, ih, run]

/-! ## Lookups by connection -/

theorem any_peer_iff (r : Registry) (id : PeerId) :
    r.active.any (·.peer == id) = true ↔ id ∈ r.ids := by
  simp [ids]

theorem session?_isSome_iff (r : Registry) (id : PeerId) :
    (r.session? id).isSome ↔ id ∈ r.ids := by
  simp [session?, ids, List.find?_isSome]

theorem mem_ids_of_session? {r : Registry} {id : PeerId} {s : Session}
    (h : r.session? id = some s) : s ∈ r.active ∧ s.peer = id := by
  simp only [session?] at h
  exact ⟨List.mem_of_find?_eq_some h, by simpa using List.find?_some h⟩

/-! ## What a login and a logout do -/

/-- The session a login creates. -/
def loginSession (id : PeerId) (addr : String) (own : Terminal) (msg : Message) : Session :=
  { peer := id, nickname := msg.sender, remoteAddr := addr, terminal := msg.terminal.getD own }

theorem onLogin_of_isClosed {r : Registry} {id : PeerId} (h : r.isClosed id = true)
    (addr : String) (own : Terminal) (msg : Message) : r.onLogin id addr own msg = none := by
  simp [onLogin, h]

/-- A login of a connection that has a session puts the new session in the old one's place. -/
theorem onLogin_of_mem {r : Registry} {id : PeerId} (hc : r.isClosed id = false) (h : id ∈ r.ids)
    (addr : String) (own : Terminal) (msg : Message) :
    r.onLogin id addr own msg =
      some (r.active.length, { r with active := r.active.map fun x =>
        if x.peer = id then loginSession id addr own msg else x }) := by
  have hany := (any_peer_iff r id).2 h
  simp [onLogin, hc, hany, loginSession]

/-- A login of a connection without a session adds the new session at the end. -/
theorem onLogin_of_not_mem {r : Registry} {id : PeerId} (hc : r.isClosed id = false)
    (h : id ∉ r.ids) (addr : String) (own : Terminal) (msg : Message) :
    r.onLogin id addr own msg =
      some (r.active.length + 1, { r with active := r.active ++ [loginSession id addr own msg] }) := by
  have hany : r.active.any (·.peer == id) = false := by
    simpa [ids] using h
  simp [onLogin, hc, hany, loginSession]

theorem onLogout_of_not_mem {r : Registry} {id : PeerId} (h : id ∉ r.ids) :
    r.onLogout id = none := by
  have hnone : r.session? id = none := by
    simpa [← session?_isSome_iff] using h
  simp [onLogout, hnone]

/-- In a registry with one session per connection, dropping the first session of a connection
drops all of them. -/
theorem eraseP_peer_eq_filter {ss : List Session} (h : (ss.map (·.peer)).Nodup) (id : PeerId) :
    ss.eraseP (·.peer == id) = ss.filter (·.peer ≠ id) := by
  induction ss with
  | nil => rfl
  | cons s ss ih =>
    simp only [List.map_cons, List.nodup_cons, List.mem_map] at h
    obtain ⟨hs, hss⟩ := h
    by_cases hid : s.peer = id
    · -- the head is the session; none of the rest belongs to the connection
      have hrest : ss.filter (·.peer ≠ id) = ss := by
        apply List.filter_eq_self.2
        intro x hx
        have : x.peer ≠ s.peer := fun he => hs ⟨x, hx, he⟩
        simpa [hid] using this
      rw [List.eraseP_cons_of_pos (by simp [hid]), List.filter_cons_of_neg (by simp [hid]), hrest]
    · rw [List.eraseP_cons_of_neg (by simp [hid]), List.filter_cons_of_pos (by simp [hid]), ih hss]

/-- A logout of a connection with a session answers its nickname, keeps every other session in
order and marks the connection closed. -/
theorem onLogout_of_mem {r : Registry} (hn : r.ids.Nodup) {id : PeerId} (h : id ∈ r.ids) :
    ∃ s, r.session? id = some s ∧ r.onLogout id =
      some (s.nickname, { active := r.active.filter (·.peer ≠ id)
                          closed := if r.closed.contains id then r.closed else r.closed ++ [id] }) := by
  obtain ⟨s, hs⟩ := Option.isSome_iff_exists.1 ((session?_isSome_iff r id).2 h)
  refine ⟨s, hs, ?_⟩
  simp only [onLogout, hs, ← eraseP_peer_eq_filter hn id]

@[simp] theorem isClosed_iff (r : Registry) (id : PeerId) : r.isClosed id = true ↔ id ∈ r.closed := by
  simp [isClosed]

theorem ids_map {ss : List Session} {f : Session → Session} (hf : ∀ x, (f x).peer = x.peer) :
    (ss.map f).map (·.peer) = ss.map (·.peer) := by
  simp [Function.comp_def, hf]

/-! ## The invariant -/

/-- What every reachable registry satisfies: one session per connection, each closed mark kept
once, and no connection both with a session and closed. -/
structure Consistent (r : Registry) : Prop where
  nodup_ids : r.ids.Nodup
  nodup_closed : r.closed.Nodup
  not_closed_of_mem : ∀ id ∈ r.ids, id ∉ r.closed

theorem consistent_empty : Consistent {} :=
  ⟨List.nodup_nil, List.nodup_nil, by simp [ids]⟩

/-- **What one call can do.** A call on a consistent registry adds one session at the end for a
connection that is neither logged in nor closed, keeps the connections as they are, removes one
connection's session and marks it closed, or lifts one closed mark. -/
theorem apply_cases {r : Registry} (hr : r.Consistent) (op : Op) :
    (∃ x, x ∉ r.ids ∧ x ∉ r.closed ∧
      (r.apply op).ids = r.ids ++ [x] ∧ (r.apply op).closed = r.closed) ∨
    ((r.apply op).ids = r.ids ∧ (r.apply op).closed = r.closed) ∨
    (∃ x ∈ r.ids,
      (r.apply op).ids = r.ids.filter (· ≠ x) ∧ (r.apply op).closed = r.closed ++ [x]) ∨
    (∃ x, (r.apply op).ids = r.ids ∧ (r.apply op).closed = r.closed.erase x) := by
  cases op with
  | login id addr own msg =>
    by_cases hc : r.isClosed id = true
    · exact .inr (.inl (by simp [apply, onLogin_of_isClosed hc]))
    · have hc' : r.isClosed id = false := Bool.eq_false_iff.2 hc
      by_cases hm : id ∈ r.ids
      · -- a repeated login: the new session takes the old one's place
        refine .inr (.inl ⟨?_, by simp [apply, onLogin_of_mem hc' hm]⟩)
        simp only [apply, onLogin_of_mem hc' hm, Option.map_some, Option.getD_some, ids]
        exact ids_map fun x => by split <;> simp_all [loginSession]
      · refine .inl ⟨id, hm, by simpa using hc, ?_, by simp [apply, onLogin_of_not_mem hc' hm]⟩
        simp [apply, onLogin_of_not_mem hc' hm, ids, loginSession]
  | logout id =>
    by_cases hm : id ∈ r.ids
    · obtain ⟨s, -, hout⟩ := onLogout_of_mem hr.nodup_ids hm
      have hnc : id ∉ r.closed := hr.not_closed_of_mem id hm
      refine .inr (.inr (.inl ⟨id, hm, ?_, ?_⟩))
      · simp [apply, hout, ids, List.filter_map, Function.comp_def]
      · simp [apply, hout, hnc]
    · exact .inr (.inl (by simp [apply, onLogout_of_not_mem hm]))
  | release id => exact .inr (.inr (.inr ⟨id, rfl, rfl⟩))
  | recordFlower id time =>
    refine .inr (.inl ⟨?_, rfl⟩)
    simp only [apply, recordFlower, ids]
    exact ids_map fun x => by split <;> rfl


theorem apply_consistent {r : Registry} (hr : r.Consistent) (op : Op) : (r.apply op).Consistent := by
  rcases apply_cases hr op with ⟨x, hx, hxc, hids, hcl⟩ | ⟨hids, hcl⟩ | ⟨x, hx, hids, hcl⟩ |
      ⟨x, hids, hcl⟩
  · -- a new session for a connection that was neither logged in nor closed
    refine ⟨?_, hcl ▸ hr.nodup_closed, ?_⟩
    · rw [hids, List.nodup_append]
      refine ⟨hr.nodup_ids, List.nodup_singleton x, ?_⟩
      rintro a ha b hb rfl
      exact hx (List.mem_singleton.1 hb ▸ ha)
    · intro y hy
      rw [hids, List.mem_append, List.mem_singleton] at hy
      rw [hcl]
      rcases hy with hy | rfl
      · exact hr.not_closed_of_mem y hy
      · exact hxc
  · exact ⟨hids ▸ hr.nodup_ids, hcl ▸ hr.nodup_closed, hids ▸ hcl ▸ hr.not_closed_of_mem⟩
  · -- a logout: the connection leaves the sessions and joins the closed marks
    refine ⟨hids ▸ hr.nodup_ids.filter _, ?_, ?_⟩
    · rw [hcl, List.nodup_append]
      refine ⟨hr.nodup_closed, List.nodup_singleton x, ?_⟩
      rintro a ha b hb rfl
      exact hr.not_closed_of_mem x hx (List.mem_singleton.1 hb ▸ ha)
    · intro y hy
      rw [hids, List.mem_filter] at hy
      rw [hcl, List.mem_append, List.mem_singleton, not_or]
      exact ⟨hr.not_closed_of_mem y hy.1, by simpa using hy.2⟩
  · refine ⟨hids ▸ hr.nodup_ids, hcl ▸ hr.nodup_closed.erase x, ?_⟩
    intro y hy hyc
    rw [hids] at hy
    rw [hcl] at hyc
    exact hr.not_closed_of_mem y hy (List.mem_of_mem_erase hyc)

/-- **The invariant holds along every run** from the empty registry. -/
theorem run_consistent (ops : List Op) : (run {} ops).Consistent := by
  induction ops using List.reverseRecOn with
  | nil => exact consistent_empty
  | append_singleton ops op ih =>
    rw [run_concat]
    exact apply_consistent ih op

/-! ## Login order -/

/-- A call makes at most one connection active, and only by adding its session at the end. -/
theorem becameActive_cases {r : Registry} (hr : r.Consistent) (op : Op) :
    (∃ x, x ∉ r.ids ∧ (r.apply op).ids = r.ids ++ [x] ∧ r.becameActive op = [x]) ∨
    ((r.apply op).ids.Sublist r.ids ∧ r.becameActive op = []) := by
  have hnone : ∀ l : List PeerId, l.Sublist r.ids → l.filter (· ∉ r.ids) = [] := by
    intro l hl
    simpa using fun y hy => hl.subset hy
  rcases apply_cases hr op with ⟨x, hx, -, hids, -⟩ | ⟨hids, -⟩ | ⟨x, -, hids, -⟩ | ⟨x, hids, -⟩
  · refine .inl ⟨x, hx, hids, ?_⟩
    rw [becameActive, hids, List.filter_append, hnone _ (List.Sublist.refl _)]
    simp [hx]
  · exact .inr ⟨hids ▸ List.Sublist.refl _, by rw [becameActive, hids, hnone _ (.refl _)]⟩
  · exact .inr ⟨hids ▸ List.filter_sublist, by rw [becameActive, hids, hnone _ List.filter_sublist]⟩
  · exact .inr ⟨hids ▸ List.Sublist.refl _, by rw [becameActive, hids, hnone _ (.refl _)]⟩

/-- Dropping repeats keeps the last copy of each connection, so one more activation moves the
connection to the end. -/
theorem dedup_concat_eq {α : Type} [DecidableEq α] (l : List α) (x : α) :
    (l ++ [x]).dedup = l.dedup.erase x ++ [x] := by
  induction l with
  | nil => simp
  | cons a l ih =>
    by_cases hal : a ∈ l
    · rw [List.cons_append, List.dedup_cons_of_mem (List.mem_append_left _ hal), ih,
        List.dedup_cons_of_mem hal]
    · by_cases hax : a = x
      · subst hax
        rw [List.cons_append, List.dedup_cons_of_mem (by simp), ih,
          List.dedup_cons_of_notMem hal, List.erase_cons_head,
          List.erase_of_not_mem (fun h => hal (List.mem_dedup.1 h))]
      · have hnot : a ∉ l ++ [x] := by simp [hal, hax]
        rw [List.cons_append, List.dedup_cons_of_notMem hnot, ih, List.dedup_cons_of_notMem hal,
          List.erase_cons_tail (by simpa using hax), List.cons_append]

/-- **Sessions stand in login order.** Along every run from the empty registry, the connections
with a session appear in the order of their latest activation. -/
theorem ids_sublist_activations (ops : List Op) :
    (run {} ops).ids.Sublist (activations {} ops).dedup := by
  induction ops using List.reverseRecOn with
  | nil => simp [ids, activations]
  | append_singleton ops op ih =>
    rw [run_concat, activations_concat]
    rcases becameActive_cases (run_consistent ops) op with ⟨x, hx, hids, hnew⟩ | ⟨hsub, hnew⟩
    · -- the new session is last, and so is the new activation
      rw [hids, hnew, dedup_concat_eq]
      apply List.Sublist.append _ (List.Sublist.refl _)
      rw [← List.erase_of_not_mem hx]
      exact ih.erase x
    · rw [hnew, List.append_nil]
      exact hsub.trans ih


/-! ## What a login and a logout answer -/

/-- A login is refused exactly for a closed connection, answers the number of sessions after it,
leaves the closed marks alone, and puts the new session in the place of the connection's old one
or else at the end. -/
def LoginAnswers (r : Registry) : Prop :=
  ∀ id addr own msg,
    (r.onLogin id addr own msg).isSome = !r.isClosed id ∧
    ∀ n r', r.onLogin id addr own msg = some (n, r') →
      n = r'.onlineCount ∧ r'.closed = r.closed ∧
      (id ∈ r.ids → r'.active = r.active.map fun x =>
        if x.peer = id then loginSession id addr own msg else x) ∧
      (id ∉ r.ids → r'.active = r.active ++ [loginSession id addr own msg])

/-- A logout answers exactly for a connection with a session; it answers that session's
nickname, removes that one session and keeps the others in order, and marks only that
connection closed. -/
def LogoutAnswers (r : Registry) : Prop :=
  ∀ id,
    (r.onLogout id).isSome = decide (id ∈ r.ids) ∧
    ∀ nickname r', r.onLogout id = some (nickname, r') →
      r.nickname? id = some nickname ∧
      r'.active = r.active.filter (·.peer ≠ id) ∧ r'.onlineCount + 1 = r.onlineCount ∧
      r'.isClosed id = true ∧ ∀ x, x ≠ id → r'.isClosed x = r.isClosed x

theorem loginAnswers (r : Registry) : r.LoginAnswers := by
  intro id addr own msg
  cases hc : r.isClosed id
  · by_cases hm : id ∈ r.ids
    · refine ⟨by simp [onLogin_of_mem hc hm], ?_⟩
      intro n r' h
      simp only [onLogin_of_mem hc hm, Option.some.injEq, Prod.mk.injEq] at h
      obtain ⟨rfl, rfl⟩ := h
      exact ⟨by simp [onlineCount], rfl, fun _ => rfl, fun h' => absurd hm h'⟩
    · refine ⟨by simp [onLogin_of_not_mem hc hm], ?_⟩
      intro n r' h
      simp only [onLogin_of_not_mem hc hm, Option.some.injEq, Prod.mk.injEq] at h
      obtain ⟨rfl, rfl⟩ := h
      exact ⟨by simp [onlineCount], rfl, fun h' => absurd h' hm, fun _ => rfl⟩
  · refine ⟨by simp [onLogin_of_isClosed hc], ?_⟩
    intro n r' h
    simp [onLogin_of_isClosed hc] at h

theorem logoutAnswers {r : Registry} (hr : r.Consistent) : r.LogoutAnswers := by
  intro id
  by_cases hm : id ∈ r.ids
  · obtain ⟨s, hs, hout⟩ := onLogout_of_mem hr.nodup_ids hm
    refine ⟨by simp [hout, hm], ?_⟩
    intro nickname r' h
    rw [hout, Option.some.injEq, Prod.mk.injEq] at h
    obtain ⟨rfl, rfl⟩ := h
    -- exactly one session belongs to the connection, so the count drops by one
    have hlen : (r.active.filter (·.peer ≠ id)).length + 1 = r.active.length := by
      obtain ⟨hsm, hsp⟩ := mem_ids_of_session? hs
      rw [← eraseP_peer_eq_filter hr.nodup_ids id,
        List.length_eraseP_of_mem hsm (by simp [hsp])]
      have := List.length_pos_of_mem hsm
      omega
    refine ⟨by simp [nickname?, hs], rfl, hlen, ?_, ?_⟩
    · by_cases hc : r.closed.contains id <;> simp_all [isClosed]
    · intro x hx
      by_cases hc : r.closed.contains id <;> simp_all [isClosed]
  · refine ⟨by simp [onLogout_of_not_mem hm, hm], ?_⟩
    intro nickname r' h
    simp [onLogout_of_not_mem hm] at h

/-- **The session registry along any run.** Whatever calls are made, in whatever order, from
the empty registry: the registry stays consistent (one session per connection, no connection
both logged in and closed); the online count is the number of connections with a session; the
sessions stand in the order their connections became active; and the next login and logout
answer and act as `LoginAnswers` and `LogoutAnswers` say. -/
theorem registry_run (ops : List Op) :
    (run {} ops).Consistent ∧
    (run {} ops).onlineCount = (run {} ops).ids.toFinset.card ∧
    (run {} ops).ids.Sublist (activations {} ops).dedup ∧
    (run {} ops).LoginAnswers ∧ (run {} ops).LogoutAnswers := by
  have hr := run_consistent ops
  refine ⟨hr, ?_, ids_sublist_activations ops, loginAnswers _, logoutAnswers hr⟩
  rw [List.toFinset_card_of_nodup hr.nodup_ids, ids, List.length_map, onlineCount]

end ChatHub.Room.Registry
