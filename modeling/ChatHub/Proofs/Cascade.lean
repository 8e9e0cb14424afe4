import ChatHub.Proofs.Delivery
/-!
# ChatHub — the eviction cascade

When pushes fail during a step, the room evicts the connections they failed for, one at a
time from the top of a stack. Each eviction is a logout whose notices can fail in turn, and
those failures go on top of the stack; a connection can be on the stack twice before it is
taken off. This module describes the cascade at the registry alone (`cascade`), with the
connections' willingness to take items fixed for the whole cascade, and proves:

* **`evict_eq`** — the room's eviction is the cascade: the registry it leaves, and every push
  it makes (a close request to each connection taken off, then the notices of its departure);
* **`cascade_spec`** — along the cascade every departing connection departs once, the
  connections that depart are exactly those with a session that were on the stack or that a
  notice failed for, each departure's notice goes to exactly the sessions not yet departed,
  and the departed connections end closed.

The cascade ends because each departure removes a session and each other step shortens the
stack (`departure?_length`).
-/

namespace ChatHub.Room

/-- A connection taken off the eviction stack, with its departure when it still had a
session. -/
abbrev Pop := PeerId × Option Departure

theorem onLogout_length {r r' : Registry} {x : PeerId} {nickname : String}
    (h : r.onLogout x = some (nickname, r')) : r'.active.length + 1 = r.active.length := by
  unfold Registry.onLogout at h
  split at h
  · simp at h
  · next s hs =>
    simp only [Option.some.injEq, Prod.mk.injEq] at h
    obtain ⟨-, rfl⟩ := h
    simp only [Registry.session?] at hs
    have hm := List.mem_of_find?_eq_some hs
    rw [List.length_eraseP_of_mem hm (List.find?_some hs)]
    have := List.length_pos_of_mem hm
    omega

theorem departure?_length {r r' : Registry} {x : PeerId} {d : Departure}
    (h : r.departure? x = some (d, r')) : r'.active.length < r.active.length := by
  obtain ⟨⟨nickname, r''⟩, hout, he⟩ := Option.map_eq_some_iff.1 h
  simp only [Prod.mk.injEq] at he
  obtain ⟨-, rfl⟩ := he
  have := onLogout_length hout
  omega

/-- The connections of a departure's notices that do not take items, in the order of the
sessions. -/
def Departure.failed (d : Departure) (acc : PeerId → Bool) : List PeerId :=
  (d.rest.filter fun s => !acc s.peer).map (·.peer)

/-- The eviction of a stack of connections at the registry, `acc` telling which connections
take items. The connection on top is taken off; when it still has a session it departs, and
the connections its notice failed for go on top of the stack, the last of them first. The
result lists what was taken off, in order, and the registry at the end. -/
def cascade (acc : PeerId → Bool) (r : Registry) : List PeerId → List Pop × Registry
  | [] => ([], r)
  | x :: rest =>
    match h : r.departure? x with
    | none => Prod.map (List.cons (x, none)) id (cascade acc r rest)
    | some (d, r') =>
      have : r'.active.length < r.active.length := departure?_length h
      Prod.map (List.cons (x, some d)) id (cascade acc r' ((d.failed acc).reverse ++ rest))
termination_by stack => (r.active.length, stack.length)

/-- The pushes of the connections taken off the stack: a close request to each, then the
notices of its departure. -/
def popSends (now : UInt64) (pops : List Pop) : List (PeerId × Outbound) :=
  pops.flatMap fun p => (p.1, .close) :: ((p.2.map (·.sends now)).getD [])

/-- The departures among the connections taken off the stack, in order. -/
def departures (pops : List Pop) : List Departure :=
  pops.filterMap (·.2)

/-! ## The room's eviction is the cascade -/

theorem close_logout (room : Room) (x : PeerId) (now : UInt64) :
    (room.close x).logout x now = (room.registry.departure? x).map fun (d, registry) =>
      (refused room.accepts (d.sends now),
        { room.pushAll ((x, .close) :: d.sends now) with registry }) := by
  rw [logout_eq, close_registry, close_eq]
  simp [accepts_push]

theorem refused_sends (d : Departure) (acc : PeerId → Bool) (now : UInt64) :
    refused acc (d.sends now) = d.failed acc := by
  rw [Departure.sends, refused_deliveries, Departure.failed]

/-- **The eviction is the cascade.** Evicting a stack leaves the registry the cascade leaves and
makes the pushes of what the cascade takes off: a close request to each connection, then the
notices of its departure. The induction follows the cascade, with the room's connections along
for the ride: pushes change neither the registry nor which connections take items. -/
theorem evict_eq (room : Room) (stack : List PeerId) (now : UInt64) :
    room.evict stack now =
      { room.pushAll (popSends now (cascade room.accepts room.registry stack).1) with
        registry := (cascade room.accepts room.registry stack).2 } := by
  suffices h : ∀ (acc : PeerId → Bool) (r : Registry) (stack : List PeerId) (room : Room),
      room.accepts = acc → room.registry = r →
      room.evict stack now =
        { room.pushAll (popSends now (cascade acc r stack).1) with registry := (cascade acc r stack).2 } from
    h _ _ stack room rfl rfl
  intro acc r stack
  fun_induction cascade acc r stack with
  | case1 r =>
    intro room _ hr
    subst hr
    rw [evict]
    rfl
  | case2 r x rest hnone ih =>
    intro room hacc hr
    subst hr
    rw [evict]
    split
    · next h =>
      rw [ih (room.close x) (by rw [close_eq, accepts_pushAll, hacc]) (close_registry room x)]
      simp [popSends, close_eq]
    · next h =>
      rw [close_logout, hnone] at h
      simp at h
  | case3 r x rest d r' hsome hlen ih =>
    intro room hacc hr
    subst hr
    rw [evict]
    split
    · next h =>
      rw [close_logout, hsome] at h
      simp at h
    · next failed room' h =>
      rw [close_logout, hsome] at h
      simp only [Option.map_some, Option.some.injEq, Prod.mk.injEq] at h
      obtain ⟨rfl, rfl⟩ := h
      dsimp only
      rw [refused_sends, hacc, ih _ (by simp [accepts_push, hacc]) rfl]
      simp [popSends, pushAll_append, pushAll_setRegistry]

/-! ## Departures at a consistent registry -/

section Consistent

variable {r : Registry} (hr : r.Consistent)
include hr

/-- In a consistent registry a connection with a session departs with its nickname, leaving the
other sessions in order, and is marked closed. -/
theorem departure?_of_mem {x : PeerId} (hx : x ∈ r.ids) :
    ∃ nickname, r.nickname? x = some nickname ∧ r.departure? x =
      some (⟨x, nickname, r.active.filter (·.peer ≠ x)⟩,
        { active := r.active.filter (·.peer ≠ x), closed := r.closed ++ [x] }) := by
  obtain ⟨s, hs, hout⟩ := Registry.onLogout_of_mem hr.nodup_ids hx
  have hnc : x ∉ r.closed := hr.not_closed_of_mem x hx
  refine ⟨s.nickname, by simp [Registry.nickname?, hs], ?_⟩
  simp [Registry.departure?, hout, hnc]

end Consistent

theorem departure?_of_not_mem {r : Registry} {x : PeerId} (hx : x ∉ r.ids) : r.departure? x = none := by
  simp [Registry.departure?, Registry.onLogout_of_not_mem hx]

/-- Dropping another connection's session does not change a connection's nickname. -/
theorem nickname?_filter {r : Registry} {x y : PeerId} (hxy : y ≠ x) (closed : List PeerId) :
    ({ active := r.active.filter (·.peer ≠ x), closed } : Registry).nickname? y = r.nickname? y := by
  simp only [Registry.nickname?, Registry.session?, List.find?_filter]
  congr 2
  funext s
  by_cases hs : s.peer = y <;> simp [hs, hxy]

theorem departure?_consistent {r r' : Registry} (hr : r.Consistent) {x : PeerId} {d : Departure}
    (h : r.departure? x = some (d, r')) : r'.Consistent := by
  obtain ⟨⟨nickname, r''⟩, hout, he⟩ := Option.map_eq_some_iff.1 h
  simp only [Prod.mk.injEq] at he
  obtain ⟨-, rfl⟩ := he
  have happly : r.apply (.logout x) = r'' := by simp [Registry.apply, hout]
  exact happly ▸ Registry.apply_consistent hr _

@[simp] theorem departures_nil : departures [] = [] := rfl

@[simp] theorem departures_cons_none (x : PeerId) (pops : List Pop) :
    departures ((x, none) :: pops) = departures pops := rfl

@[simp] theorem departures_cons_some (x : PeerId) (d : Departure) (pops : List Pop) :
    departures ((x, some d) :: pops) = d :: departures pops := rfl

/-! ## What the cascade does -/

/-- What a cascade from a registry guarantees, with `Dp` the departing connections in order:
they are distinct; the sessions left are the others, in order, and the departed are marked
closed after the old marks; every connection with a session that was on the stack or that a
notice failed for departs, and only those do; each departure's notice goes to the sessions at
the start less those departed so far, itself included; each departing connection had its
nickname; and every connection on the stack is taken off, each departing one when it departs. -/
structure Cascaded (acc : PeerId → Bool) (r : Registry) (stack : List PeerId) (pops : List Pop)
    (r' : Registry) : Prop where
  consistent : r'.Consistent
  nodup : ((departures pops).map (·.peer)).Nodup
  active : r'.active = r.active.filter fun s => s.peer ∉ (departures pops).map (·.peer)
  closed : r'.closed = r.closed ++ (departures pops).map (·.peer)
  departs_of_stack : ∀ x ∈ stack, x ∈ r.ids → x ∈ (departures pops).map (·.peer)
  departs_of_failed : ∀ d ∈ departures pops, ∀ x ∈ d.failed acc, x ∈ (departures pops).map (·.peer)
  stack_or_failed : ∀ x ∈ (departures pops).map (·.peer),
    x ∈ stack ∨ ∃ d ∈ departures pops, x ∈ d.failed acc
  rest : ∀ pre d post, departures pops = pre ++ d :: post →
    d.rest = r.active.filter fun s => s.peer ∉ pre.map (·.peer) ++ [d.peer]
  nickname : ∀ d ∈ departures pops, r.nickname? d.peer = some d.nickname
  popped : ∀ x ∈ stack, x ∈ pops.map (·.1)
  popped_departure : ∀ d ∈ departures pops, (d.peer, some d) ∈ pops

theorem mem_ids_of_nickname? {r : Registry} {x : PeerId} {nickname : String}
    (h : r.nickname? x = some nickname) : x ∈ r.ids := by
  apply (Registry.session?_isSome_iff r x).1
  simp only [Registry.nickname?, Option.map_eq_some_iff] at h
  obtain ⟨s, hs, -⟩ := h
  simp [hs]

theorem ids_filter (r : Registry) (x : PeerId) (closed : List PeerId) :
    ({ active := r.active.filter (·.peer ≠ x), closed } : Registry).ids = r.ids.filter (· ≠ x) := by
  simp [Registry.ids, List.filter_map, Function.comp_def]

theorem filter_filter_peer (ss : List Session) (x : PeerId) (l : List PeerId) :
    (ss.filter (·.peer ≠ x)).filter (·.peer ∉ l) = ss.filter (·.peer ∉ x :: l) := by
  rw [List.filter_filter]
  apply List.filter_congr
  intro s _
  by_cases hs : s.peer = x <;> simp [hs]

/-! ### One pop at a time -/

theorem Cascaded.nil (acc : PeerId → Bool) {r : Registry} (hr : r.Consistent) :
    Cascaded acc r [] [] r := by
  refine ⟨hr, List.nodup_nil, by simp, by simp, by simp, by simp, by simp, ?_, by simp, by simp,
    by simp⟩
  intro pre d post h
  simp at h

/-- Taking off a connection without a session changes nothing but the stack. -/
theorem Cascaded.cons_none {acc : PeerId → Bool} {r r'' : Registry} {x : PeerId}
    {rest : List PeerId} {pops : List Pop} (hx : x ∉ r.ids) (h : Cascaded acc r rest pops r'') :
    Cascaded acc r (x :: rest) ((x, none) :: pops) r'' := by
  obtain ⟨hcons, hnodup, hactive, hclosed, hstack, hfailed, hsf, hrest, hnick, hpopped, hpd⟩ := h
  refine ⟨hcons, by simpa using hnodup, by simpa using hactive, by simpa using hclosed, ?_,
    by simpa using hfailed, ?_, by simpa using hrest, by simpa using hnick, ?_, ?_⟩
  · intro y hy hyr
    rcases List.mem_cons.1 hy with rfl | hy
    · exact absurd hyr hx
    · simpa using hstack y hy hyr
  · intro y hy
    rcases hsf y (by simpa using hy) with h | h
    · exact .inl (List.mem_cons_of_mem _ h)
    · exact .inr (by simpa using h)
  · intro y hy
    rcases List.mem_cons.1 hy with rfl | hy
    · simp
    · simp only [List.map_cons, List.mem_cons]
      exact .inr (hpopped y hy)
  · intro d hd
    exact List.mem_cons_of_mem _ (hpd d (by simpa using hd))

/-- Taking off a connection with a session: it departs first, then the cascade goes on from the
registry it left, with the connections its notice failed for on top of the stack. -/
theorem Cascaded.cons_some {acc : PeerId → Bool} {r r' r'' : Registry} {x : PeerId}
    {rest : List PeerId} {d : Departure} {pops : List Pop} (hr : r.Consistent)
    (hsome : r.departure? x = some (d, r'))
    (h : Cascaded acc r' ((d.failed acc).reverse ++ rest) pops r'') :
    Cascaded acc r (x :: rest) ((x, some d) :: pops) r'' := by
  have hx : x ∈ r.ids := by
    by_contra hx
    rw [departure?_of_not_mem hx] at hsome
    exact absurd hsome (by simp)
  obtain ⟨nickname, hnick, hdep⟩ := departure?_of_mem hr hx
  rw [hdep, Option.some.injEq, Prod.mk.injEq] at hsome
  obtain ⟨hd, hr'eq⟩ := hsome
  have hdpeer : d.peer = x := by rw [← hd]
  have hdrest : d.rest = r.active.filter (·.peer ≠ x) := by rw [← hd]
  have hr'active : r'.active = r.active.filter (·.peer ≠ x) := by rw [← hr'eq]
  have hr'ids : r'.ids = r.ids.filter (· ≠ x) := by rw [← hr'eq, ids_filter]
  obtain ⟨hcons, hnodup, hactive, hclosed, hstack, hfailed, hsf, hrest, hnick', hpopped, hpd⟩ := h
  -- the later departures had sessions after this one, so they are other connections
  have hlater : ∀ y ∈ (departures pops).map (·.peer), y ∈ r.ids ∧ y ≠ x := by
    intro y hy
    obtain ⟨d', hd', rfl⟩ := List.mem_map.1 hy
    have := mem_ids_of_nickname? (hnick' d' hd')
    rw [hr'ids, List.mem_filter] at this
    exact ⟨this.1, by simpa using this.2⟩
  -- the connections its notice failed for had sessions after it
  have hfail : ∀ z ∈ d.failed acc, z ∈ r'.ids := by
    intro z hz
    simp only [Departure.failed, List.mem_map, List.mem_filter] at hz
    obtain ⟨s, ⟨hs, -⟩, rfl⟩ := hz
    rw [Registry.ids, hr'active, ← hdrest]
    exact List.mem_map_of_mem hs
  refine ⟨hcons, ?_, ?_, ?_, ?_, ?_, ?_, ?_, ?_, ?_, ?_⟩ <;>
    simp only [departures_cons_some, List.map_cons]
  · rw [hdpeer]
    exact List.nodup_cons.2 ⟨fun h => (hlater x h).2 rfl, hnodup⟩
  · rw [hactive, hr'active, filter_filter_peer, hdpeer]
  · rw [hclosed, ← hr'eq, hdpeer]
    simp
  · intro y hy hyr
    by_cases hyx : y = x
    · rw [hdpeer, hyx]
      exact List.mem_cons_self ..
    · have hy' : y ∈ rest := by simpa [hyx] using hy
      refine List.mem_cons_of_mem _ (hstack y (List.mem_append_right _ hy') ?_)
      rw [hr'ids, List.mem_filter]
      exact ⟨hyr, by simpa using hyx⟩
  · intro d' hd' z hz
    rcases List.mem_cons.1 hd' with rfl | hd'
    · exact List.mem_cons_of_mem _
        (hstack z (List.mem_append_left _ (List.mem_reverse.2 hz)) (hfail z hz))
    · exact List.mem_cons_of_mem _ (hfailed d' hd' z hz)
  · intro y hy
    rcases List.mem_cons.1 hy with hyx | hy
    · exact .inl (hyx ▸ hdpeer ▸ List.mem_cons_self ..)
    · rcases hsf y hy with h | ⟨d', hd', hyd⟩
      · rcases List.mem_append.1 h with h | h
        · exact .inr ⟨d, List.mem_cons_self .., List.mem_reverse.1 h⟩
        · exact .inl (List.mem_cons_of_mem _ h)
      · exact .inr ⟨d', List.mem_cons_of_mem _ hd', hyd⟩
  · intro pre d' post h
    cases pre with
    | nil =>
      simp only [List.nil_append, List.cons.injEq] at h
      obtain ⟨rfl, -⟩ := h
      rw [hdrest, hdpeer]
      simp
    | cons p pre =>
      simp only [List.cons_append, List.cons.injEq] at h
      obtain ⟨rfl, h⟩ := h
      rw [hrest pre d' post h, hr'active, filter_filter_peer]
      simp [hdpeer]
  · intro d' hd'
    rcases List.mem_cons.1 hd' with rfl | hd'
    · rw [hdpeer, hnick, ← hd]
    · have hne := (hlater d'.peer (List.mem_map_of_mem hd')).2
      rw [← nickname?_filter hne (r.closed ++ [x]), ← hr'active]
      exact hnick' d' hd'
  · intro y hy
    rcases List.mem_cons.1 hy with rfl | hy
    · exact List.mem_cons_self ..
    · exact List.mem_cons_of_mem _ (hpopped y (List.mem_append_right _ hy))
  · intro d' hd'
    rcases List.mem_cons.1 hd' with rfl | hd'
    · rw [hdpeer]
      exact List.mem_cons_self ..
    · exact List.mem_cons_of_mem _ (hpd d' hd')

/-- **What the cascade does**, from any consistent registry and any stack. The induction follows
the cascade, one pop at a time; a departure's notice failures join the stack, so they are
covered by the induction's own stack clause. -/
theorem cascade_spec (acc : PeerId → Bool) {r : Registry} (hr : r.Consistent) (stack : List PeerId) :
    Cascaded acc r stack (cascade acc r stack).1 (cascade acc r stack).2 := by
  fun_induction cascade acc r stack with
  | case1 r => exact Cascaded.nil acc hr
  | case2 r x rest hnone ih =>
    have hx : x ∉ r.ids := fun hx => by
      obtain ⟨_, _, hsome⟩ := departure?_of_mem hr hx
      rw [hsome] at hnone
      exact absurd hnone (by simp)
    exact (ih hr).cons_none hx
  | case3 r x rest d r' hsome _ ih => exact (ih (departure?_consistent hr hsome)).cons_some hr hsome

end ChatHub.Room
