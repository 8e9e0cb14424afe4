import ChatHub.Proofs.StepLog
/-!
# ChatHub — what a step's log guarantees

The log of a step (`stepLog`) has two parts: the handling of the message, which may make one
departure (a LOGOUT, or a connection going away), and the cascade of evictions after it. This
module proves what every log of a step from a consistent registry satisfies, in two stages:

* **`Handling`** — what a handling leaves for the cascade: a consistent registry, the sessions the
  departures begin from (those of the registry before, plus a connection that logged in), at most
  one departure of its own, and pushes that failed only for connections with a session;
* **`Handling.cascading_logged`** — from those, the whole log (`Logged`): the sessions left are
  those not departed, the departed are closed, each departs once, exactly the handler's own
  departure and the connections a message or line failed for depart, and each departure's
  notice reaches exactly the sessions not yet departed.

Each command's handling meets `Handling` (`handled_handling`), and so every step's log is
`Logged` (`stepLog_logged`).
-/

namespace ChatHub.Room

/-- What a session says about who it is: everything but the time of its last flower. -/
def Session.identity (s : Session) : PeerId × String × String × Terminal :=
  (s.peer, s.nickname, s.remoteAddr, s.terminal)

/-! ## Lists of pushes -/

/-- The pushes of a cascade fail exactly for the connections its departures' notices fail for. -/
theorem failedOf_popSends (acc : PeerId → Bool) (now : UInt64) (pops : List Pop) :
    failedOf acc (popSends now pops) = (departures pops).flatMap (·.failed acc) := by
  induction pops with
  | nil => rfl
  | cons p pops ih =>
    obtain ⟨x, _ | d⟩ := p
    · simpa [popSends] using ih
    · simp only [popSends, List.flatMap_cons, Option.map_some, Option.getD_some,
        List.cons_append, failedOf_close_cons, failedOf_append, departures_cons_some]
      rw [failedOf_sends, ← ih]
      rfl

/-- A departure taken off the stack has its close request and then its notices among the
cascade's pushes, side by side. -/
theorem infix_popSends {pops : List Pop} {x : PeerId} {d : Departure} (h : (x, some d) ∈ pops)
    (now : UInt64) : ((x, .close) :: d.sends now).IsInfix (popSends now pops) := by
  rw [popSends, List.flatMap_def]
  apply List.infix_of_mem_flatten
  exact List.mem_map.2 ⟨(x, some d), h, rfl⟩

/-! ## Sessions -/

theorem filter_peer_not_mem_append (ss : List Session) (l₁ l₂ : List PeerId) :
    (ss.filter (·.peer ∉ l₁)).filter (·.peer ∉ l₂) = ss.filter (·.peer ∉ l₁ ++ l₂) := by
  rw [List.filter_filter]
  apply List.filter_congr
  intro s _
  simp [Bool.and_comm]

theorem exists_session_of_nickname? {r : Registry} {x : PeerId} {nickname : String}
    (h : r.nickname? x = some nickname) : ∃ s ∈ r.active, s.peer = x ∧ s.nickname = nickname := by
  obtain ⟨s, hs, rfl⟩ := Option.map_eq_some_iff.1 h
  obtain ⟨hmem, hpeer⟩ := Registry.mem_ids_of_session? hs
  exact ⟨s, hmem, hpeer, rfl⟩

/-! ## From the handling to the log -/

/-- What a handling leaves for the cascade, from the registry `r₀` before it, with `joined` the
connection it logged in, if any: a consistent registry; the sessions the departures begin
from, one per connection, those of `r₀` (who they are unchanged) followed by `joined`; those
sessions less the handler's own departure as the registry's sessions, and that departure's
connection added to the closed marks; the departure's notice goes to the sessions left, under
the nickname its session had, among the pushes, and its connection is asked to close; and every
push that failed was for a connection with a session. -/
structure Handling (acc : PeerId → Bool) (now : UInt64) (r₀ : Registry) (joined : List PeerId)
    (sessions : List Session) (registry : Registry) (sends : List (PeerId × Outbound))
    (d? : Option Departure) : Prop where
  consistent : registry.Consistent
  nodup : (sessions.map (·.peer)).Nodup
  peers : sessions.map (·.peer) = r₀.ids ++ joined
  kept : (r₀.active.map Session.identity).IsPrefix (sessions.map Session.identity)
  active : registry.active = sessions.filter (·.peer ∉ d?.toList.map (·.peer))
  closed : registry.closed = r₀.closed ++ d?.toList.map (·.peer)
  departure : ∀ d ∈ d?, d.rest = registry.active ∧
    (∃ s ∈ sessions, s.peer = d.peer ∧ s.nickname = d.nickname) ∧
    (d.sends now).IsInfix sends ∧ (d.peer, .close) ∈ sends
  failed : ∀ x ∈ failedOf acc sends, x ∈ registry.ids

/-- What the log of a step guarantees, from the registry `r₀` before it, with `joined` the
connection it logged in, `lead` the connection it logged out by itself and `released` the
connection whose closed mark it lifted, if any:
* the registry stays consistent, and the sessions the departures begin from are one per
  connection, those of `r₀` (who they are unchanged) followed by `joined`;
* the sessions left are the others, in order; the closed marks are the old ones and the
  departed, less `released`;
* each connection departs at most once, and exactly `lead` and the connections a push of a
  message or a line failed for depart;
* each departure's notice goes to the sessions not yet departed (itself included), under the
  nickname its session had, side by side among the pushes, and its connection is asked to
  close. -/
structure Logged (acc : PeerId → Bool) (now : UInt64) (r₀ : Registry)
    (joined lead released : List PeerId) (log : StepLog) : Prop where
  consistent : log.registry.Consistent
  sessions_nodup : (log.sessions.map (·.peer)).Nodup
  peers : log.sessions.map (·.peer) = r₀.ids ++ joined
  kept : (r₀.active.map Session.identity).IsPrefix (log.sessions.map Session.identity)
  active : log.registry.active = log.sessions.filter (·.peer ∉ log.departures.map (·.peer))
  closed : ∀ x, log.registry.isClosed x =
    ((r₀.isClosed x || decide (x ∈ log.departures.map (·.peer))) && decide (x ∉ released))
  nodup : (log.departures.map (·.peer)).Nodup
  departs : ∀ x, x ∈ log.departures.map (·.peer) ↔ x ∈ lead ∨ x ∈ failedOf acc log.sends
  rest : ∀ pre d post, log.departures = pre ++ d :: post →
    d.rest = log.sessions.filter fun s => s.peer ∉ pre.map (·.peer) ++ [d.peer]
  nickname : ∀ d ∈ log.departures, ∃ s ∈ log.sessions, s.peer = d.peer ∧ s.nickname = d.nickname
  notices : ∀ d ∈ log.departures, (d.sends now).IsInfix log.sends
  closes : ∀ d ∈ log.departures, (d.peer, .close) ∈ log.sends

section Cascading

variable {acc : PeerId → Bool} {now : UInt64} {r₀ : Registry} {joined : List PeerId}
  {sessions : List Session} {registry : Registry} {sends : List (PeerId × Outbound)}
  {d? : Option Departure} {pops : List Pop} {r' : Registry}
  (h : Handling acc now r₀ joined sessions registry sends d?)
  (hc : Cascaded acc registry (failedOf acc sends).reverse pops r')
include h hc

theorem Handling.active_cascaded :
    r'.active = sessions.filter (·.peer ∉ (d?.toList ++ departures pops).map (·.peer)) := by
  rw [hc.active, h.active, List.map_append, filter_peer_not_mem_append]

theorem Handling.isClosed_cascaded (x : PeerId) :
    r'.isClosed x = (r₀.isClosed x || decide (x ∈ (d?.toList ++ departures pops).map (·.peer))) := by
  simp [Registry.isClosed, hc.closed, h.closed]

/-- The handler's own departure is not among the cascade's: its connection has no session
left for the cascade to find. -/
theorem Handling.lead_not_mem_cascaded {d : Departure} (hd : d? = some d) :
    d.peer ∉ (departures pops).map (·.peer) := by
  intro hmem
  obtain ⟨d', hd', hpeer⟩ := List.mem_map.1 hmem
  have hids : d.peer ∈ registry.ids := hpeer ▸ mem_ids_of_nickname? (hc.nickname d' hd')
  rw [Registry.ids, h.active, hd] at hids
  simp only [Option.toList_some, List.map_cons, List.map_nil, List.mem_map, List.mem_filter,
    List.mem_singleton, decide_not, Bool.not_eq_true', decide_eq_false_iff_not] at hids
  obtain ⟨s, ⟨-, hne⟩, heq⟩ := hids
  exact hne heq

theorem Handling.nodup_cascaded : ((d?.toList ++ departures pops).map (·.peer)).Nodup := by
  cases hd : d? with
  | none => simpa using hc.nodup
  | some d =>
    rw [Option.toList_some, List.singleton_append, List.map_cons]
    exact List.nodup_cons.2 ⟨h.lead_not_mem_cascaded hc hd, hc.nodup⟩

/-- The connections that depart are the handler's own departure and those a push failed for:
a failed push of the handling is for a connection with a session, so it is on the stack, and a
failed notice joins the stack in turn. -/
theorem Handling.departs_cascaded (x : PeerId) :
    x ∈ (d?.toList ++ departures pops).map (·.peer) ↔
      x ∈ d?.toList.map (·.peer) ∨ x ∈ failedOf acc (sends ++ popSends now pops) := by
  simp only [List.map_append, List.mem_append, failedOf_append, failedOf_popSends,
    List.mem_flatMap]
  constructor
  · rintro (hx | hx)
    · exact .inl hx
    · rcases hc.stack_or_failed x hx with hs | ⟨d, hd, hxd⟩
      · exact .inr (.inl (List.mem_reverse.1 hs))
      · exact .inr (.inr ⟨d, hd, hxd⟩)
  · rintro (hx | hx | ⟨d, hd, hxd⟩)
    · exact .inl hx
    · exact .inr (hc.departs_of_stack x (List.mem_reverse.2 hx) (h.failed x hx))
    · exact .inr (hc.departs_of_failed d hd x hxd)

theorem Handling.rest_cascaded (pre : List Departure) (d : Departure) (post : List Departure)
    (he : d?.toList ++ departures pops = pre ++ d :: post) :
    d.rest = sessions.filter fun s => s.peer ∉ pre.map (·.peer) ++ [d.peer] := by
  cases hd : d? with
  | none =>
    rw [hd, Option.toList_none, List.nil_append] at he
    rw [hc.rest pre d post he, h.active, hd]
    simp
  | some d₀ =>
    rw [hd, Option.toList_some, List.singleton_append] at he
    rcases List.cons_eq_append_iff.1 he with ⟨rfl, hfirst⟩ | ⟨pre', rfl, hlater⟩
    · -- the handler's own departure comes first
      obtain ⟨hdd, -⟩ := List.cons_eq_cons.1 hfirst
      rw [hdd, (h.departure d₀ hd).1, h.active, hd]
      simp
    · rw [hc.rest pre' d post hlater, h.active, hd, filter_peer_not_mem_append]
      simp

theorem Handling.nickname_cascaded (d : Departure) (hd : d ∈ d?.toList ++ departures pops) :
    ∃ s ∈ sessions, s.peer = d.peer ∧ s.nickname = d.nickname := by
  rcases List.mem_append.1 hd with hd | hd
  · exact (h.departure d (Option.mem_toList.1 hd)).2.1
  · obtain ⟨s, hs, hpeer, hnick⟩ := exists_session_of_nickname? (hc.nickname d hd)
    rw [h.active] at hs
    exact ⟨s, List.mem_of_mem_filter hs, hpeer, hnick⟩

theorem Handling.notices_cascaded (d : Departure) (hd : d ∈ d?.toList ++ departures pops) :
    (d.sends now).IsInfix (sends ++ popSends now pops) ∧
      (d.peer, .close) ∈ sends ++ popSends now pops := by
  rcases List.mem_append.1 hd with hd | hd
  · obtain ⟨-, -, hinf, hclose⟩ := h.departure d (Option.mem_toList.1 hd)
    exact ⟨hinf.trans (List.prefix_append _ _).isInfix, List.mem_append_left _ hclose⟩
  · have hblock := (infix_popSends (hc.popped_departure d hd) now).trans
      (List.suffix_append sends _).isInfix
    exact ⟨(List.suffix_cons _ _).isInfix.trans hblock, hblock.subset (List.mem_cons_self ..)⟩

end Cascading

/-- **A handling and its cascade.** Whatever a handling leaves, the log of the cascade after it
is `Logged`, the handler's own departure as its lead. -/
theorem Handling.cascading_logged {acc : PeerId → Bool} {now : UInt64} {r₀ : Registry}
    {joined : List PeerId} {sessions : List Session} {registry : Registry}
    {sends : List (PeerId × Outbound)} {d? : Option Departure}
    (h : Handling acc now r₀ joined sessions registry sends d?) :
    Logged acc now r₀ joined (d?.toList.map (·.peer)) []
      (StepLog.cascading acc now sessions registry sends d?) := by
  -- the cascade starts from the handling's registry, with its failures as the stack
  have hc := cascade_spec acc h.consistent (failedOf acc sends).reverse
  simp only [StepLog.cascading]
  generalize cascade acc registry (failedOf acc sends).reverse = c at hc
  obtain ⟨pops, r'⟩ := c
  exact
    { consistent := hc.consistent
      sessions_nodup := h.nodup
      peers := h.peers
      kept := h.kept
      active := h.active_cascaded hc
      closed := fun x => by simp [h.isClosed_cascaded hc x]
      nodup := h.nodup_cascaded hc
      departs := h.departs_cascaded hc
      rest := h.rest_cascaded hc
      nickname := h.nickname_cascaded hc
      notices := fun d hd => (h.notices_cascaded hc d hd).1
      closes := fun d hd => (h.notices_cascaded hc d hd).2 }

/-! ## What each command's handling leaves -/

theorem idle_eq_cascading (acc : PeerId → Bool) (now : UInt64) (r : Registry) :
    StepLog.idle r = StepLog.cascading acc now r.active r [] none := by
  simp [StepLog.idle, StepLog.cascading, cascade, popSends, departures]

theorem mem_ids_of_departure? {r r' : Registry} {x : PeerId} {d : Departure}
    (h : r.departure? x = some (d, r')) : x ∈ r.ids := by
  by_contra hx
  rw [departure?_of_not_mem hx] at h
  cases h

/-- A handling that leaves the registry as it was, with pushes that fail only for connections
with a session. -/
theorem handling_unchanged {acc : PeerId → Bool} {now : UInt64} {r : Registry} (hr : r.Consistent)
    {sends : List (PeerId × Outbound)} (hfailed : ∀ x ∈ failedOf acc sends, x ∈ r.ids) :
    Handling acc now r [] r.active r sends none where
  consistent := hr
  nodup := hr.nodup_ids
  peers := by simp [Registry.ids]
  kept := List.prefix_refl _
  active := by simp
  closed := by simp
  departure := by simp
  failed := hfailed

/-- A handling that delivers one item to each session of the registry it leaves, which has the
old sessions first and the old closed marks. -/
theorem handling_deliveries {acc : PeerId → Bool} {now : UInt64} {r registry : Registry}
    {joined : List PeerId} (hreg : registry.Consistent) (hpeers : registry.ids = r.ids ++ joined)
    (hkept : (r.active.map Session.identity).IsPrefix (registry.active.map Session.identity))
    (hclosed : registry.closed = r.closed) {item : Session → Outbound}
    (hitem : ∀ s, item s ≠ .close) :
    Handling acc now r joined registry.active registry (deliveries item registry.active) none where
  consistent := hreg
  nodup := hreg.nodup_ids
  peers := hpeers
  kept := hkept
  active := by simp
  closed := by simp [hclosed]
  departure := by simp
  failed := fun x hx => by
    rw [failedOf_deliveries hitem, refused_deliveries] at hx
    obtain ⟨s, hs, rfl⟩ := List.mem_map.1 hx
    exact List.mem_map_of_mem (List.mem_of_mem_filter hs)

/-- A departure from a consistent registry, followed by a close request to the connection. -/
theorem handling_departure {acc : PeerId → Bool} {now : UInt64} {r registry : Registry}
    (hr : r.Consistent) {id : PeerId} {d : Departure} (hd : r.departure? id = some (d, registry)) :
    Handling acc now r [] r.active registry (d.sends now ++ [(id, .close)]) (some d) ∧
      d.peer = id := by
  have hreg := departure?_consistent hr hd
  obtain ⟨nickname, hnick, heq⟩ := departure?_of_mem hr (mem_ids_of_departure? hd)
  rw [heq, Option.some.injEq, Prod.mk.injEq] at hd
  obtain ⟨rfl, rfl⟩ := hd
  refine ⟨⟨hreg, hr.nodup_ids, by simp [Registry.ids], List.prefix_refl _, by simp, by simp, ?_, ?_⟩,
    rfl⟩
  · rintro d (rfl | _)
    obtain ⟨s, hs, hpeer, hnick⟩ := exists_session_of_nickname? hnick
    exact ⟨rfl, ⟨s, hs, hpeer, hnick⟩, (List.prefix_append _ _).isInfix, by simp⟩
  · -- the notice fails only for sessions that are left
    intro x hx
    rw [failedOf_departure, Departure.failed] at hx
    obtain ⟨s, hs, rfl⟩ := List.mem_map.1 hx
    exact List.mem_map_of_mem (List.mem_of_mem_filter hs)

/-! ## Handling each command -/

/-- The connection a message from `id` logs in: a LOGIN with a sender that is not blank, from a
connection with neither a session nor a closed mark. -/
def Registry.joinedBy (r : Registry) (id : PeerId) (msg : Message) : List PeerId :=
  if msg.command = .login ∧ Text.isBlank msg.sender.toList = false ∧ id ∉ r.ids ∧
      r.isClosed id = false then [id] else []

/-- The connection a message from `id` logs out by itself: a LOGOUT from a connection with a
session. -/
def Registry.leftBy (r : Registry) (id : PeerId) (msg : Message) : List PeerId :=
  if msg.command = .logout ∧ id ∈ r.ids then [id] else []

theorem Registry.joinedBy_of_ne {r : Registry} {id : PeerId} {msg : Message}
    (h : msg.command ≠ .login) : r.joinedBy id msg = [] :=
  if_neg fun hc => h hc.1

theorem Registry.leftBy_of_ne {r : Registry} {id : PeerId} {msg : Message}
    (h : msg.command ≠ .logout) : r.leftBy id msg = [] :=
  if_neg fun hc => h hc.1

theorem Registry.nickname?_isSome_iff (r : Registry) (id : PeerId) :
    (r.nickname? id).isSome ↔ id ∈ r.ids := by
  rw [Registry.nickname?, Option.isSome_map, Registry.session?_isSome_iff]

theorem consistent_login {r : Registry} (hr : r.Consistent) {id : PeerId} {addr : String}
    {own : Terminal} {msg : Message} (hc : r.isClosed id = false) (hid : id ∉ r.ids) :
    ({ r with active := r.active ++ [Registry.loginSession id addr own msg] } : Registry).Consistent := by
  have h := Registry.apply_consistent hr (.login id addr own msg)
  rwa [Registry.apply, Registry.onLogin_of_not_mem hc hid, Option.map_some, Option.getD_some] at h

theorem identity_recordFlower (r : Registry) (x : PeerId) (time : UInt64) :
    (r.recordFlower x time).active.map Session.identity = r.active.map Session.identity := by
  simp only [Registry.recordFlower, List.map_map]
  apply List.map_congr_left
  intro s _
  simp only [Function.comp_apply]
  split <;> rfl

section Handled

variable {room : Room} (hr : room.registry.Consistent) {id : PeerId} {msg : Message} {now : UInt64}
  {registry : Registry} {sends : List (PeerId × Outbound)} {d? : Option Departure}
include hr

/-- A LOGIN that does something adds a session for the connection at the end and greets each
session. -/
theorem handled_login (hc : room.registry.isClosed id = false) (hcmd : msg.command = .login)
    (h : room.handled id msg now = some (registry, sends, d?)) :
    Handling room.accepts now room.registry (room.registry.joinedBy id msg) registry.active registry
      sends d? ∧ d? = none := by
  simp only [handled, hcmd] at h
  split at h
  · cases h
  · next hcond =>
    simp only [not_or, Bool.not_eq_true, Option.isSome_eq_false_iff] at hcond
    obtain ⟨hblank, hnick⟩ := hcond
    have hid : id ∉ room.registry.ids := by
      rw [← Registry.nickname?_isSome_iff]
      simpa using hnick
    -- a connection with neither a session nor a closed mark: its session goes at the end
    rw [Registry.onLogin_of_not_mem hc hid] at h
    simp only [Option.map_some, Option.some.injEq, Prod.mk.injEq] at h
    obtain ⟨rfl, rfl, rfl⟩ := h
    rw [Registry.joinedBy, if_pos ⟨hcmd, hblank, hid, hc⟩]
    refine ⟨handling_deliveries ?_ ?_ ?_ ?_ (greeting_ne_close id msg _ now), rfl⟩
    · exact consistent_login hr hc hid
    · simp [Registry.ids, Registry.loginSession]
    · rw [List.map_append]
      exact List.prefix_append _ _
    · rfl

/-- A CHAT that does something delivers a copy to each session. -/
theorem handled_chat (hcmd : msg.command = .chat)
    (h : room.handled id msg now = some (registry, sends, d?)) :
    Handling room.accepts now room.registry [] registry.active registry sends d? ∧ d? = none := by
  simp only [handled, hcmd] at h
  obtain ⟨origin, -, he⟩ := Option.map_eq_some_iff.1 h
  simp only [Prod.mk.injEq] at he
  obtain ⟨rfl, rfl, rfl⟩ := he
  exact ⟨handling_deliveries hr (by simp) (List.prefix_refl _) rfl (copyFor_ne_close origin _), rfl⟩

/-- A FLOWER that does something either replies to its sender alone or, recording the flower,
delivers a copy to each session. -/
theorem handled_flower (hcmd : msg.command = .flower)
    (h : room.handled id msg now = some (registry, sends, d?)) :
    Handling room.accepts now room.registry [] registry.active registry sends d? ∧ d? = none := by
  simp only [handled, hcmd] at h
  obtain ⟨origin, horigin, he⟩ := Option.map_eq_some_iff.1 h
  obtain ⟨hmem, hpeer⟩ := Registry.mem_ids_of_session? horigin
  split at he
  · -- too soon: only the reply to the sender, who has a session
    simp only [Prod.mk.injEq] at he
    obtain ⟨rfl, rfl, rfl⟩ := he
    refine ⟨handling_unchanged hr fun x hx => ?_, rfl⟩
    simp only [failedOf, refused, List.filter_cons, List.filter_nil] at hx
    split at hx <;> simp at hx
    rw [hx.1, ← hpeer]
    exact List.mem_map_of_mem hmem
  · simp only [Prod.mk.injEq] at he
    obtain ⟨rfl, rfl, rfl⟩ := he
    refine ⟨handling_deliveries ?_ ?_ ?_ ?_ (copyFor_ne_close origin _), rfl⟩
    · exact Registry.apply_consistent hr (.recordFlower origin.peer now)
    · simp only [Registry.ids, Registry.recordFlower, List.append_nil]
      exact Registry.ids_map fun s => by split <;> rfl
    · rw [identity_recordFlower]
    · rfl

/-- A LOGOUT that does something is the departure of its connection, which has a session. -/
theorem handled_logout (hcmd : msg.command = .logout)
    (h : room.handled id msg now = some (registry, sends, d?)) :
    Handling room.accepts now room.registry [] room.registry.active registry sends d? ∧
      d?.toList.map (·.peer) = [id] ∧ id ∈ room.registry.ids := by
  simp only [handled, hcmd] at h
  obtain ⟨⟨d, registry'⟩, hd, he⟩ := Option.map_eq_some_iff.1 h
  simp only [Prod.mk.injEq] at he
  obtain ⟨rfl, rfl, rfl⟩ := he
  obtain ⟨hh, hpeer⟩ := handling_departure hr hd
  exact ⟨hh, by simp [hpeer], mem_ids_of_departure? hd⟩

/-- A message that does nothing from a connection that is not closed neither logs a connection in
nor logs one out. -/
theorem handled_none (hc : room.registry.isClosed id = false)
    (h : room.handled id msg now = none) :
    room.registry.joinedBy id msg = [] ∧ room.registry.leftBy id msg = [] := by
  cases hcmd : msg.command with
  | login =>
    refine ⟨?_, Registry.leftBy_of_ne (by simp [hcmd])⟩
    simp only [handled, hcmd] at h
    split at h
    · next hcond =>
      -- a blank sender, or a connection that has a session
      rw [Registry.joinedBy, if_neg]
      rintro ⟨-, hblank, hid, -⟩
      rcases hcond with hb | hn
      · simp [hblank] at hb
      · exact hid ((Registry.nickname?_isSome_iff _ _).1 hn)
    · next hcond =>
      -- otherwise the login is taken
      have hid : id ∉ room.registry.ids := fun hm =>
        hcond (.inr ((Registry.nickname?_isSome_iff _ _).2 hm))
      rw [Registry.onLogin_of_not_mem hc hid] at h
      cases h
  | logout =>
    refine ⟨Registry.joinedBy_of_ne (by simp [hcmd]), ?_⟩
    simp only [handled, hcmd, Option.map_eq_none_iff] at h
    rw [Registry.leftBy, if_neg]
    rintro ⟨-, hid⟩
    obtain ⟨_, -, hd⟩ := departure?_of_mem hr hid
    rw [hd] at h
    cases h
  | system | chat | flower =>
    exact ⟨Registry.joinedBy_of_ne (by simp [hcmd]), Registry.leftBy_of_ne (by simp [hcmd])⟩

end Handled

theorem idle_logged {acc : PeerId → Bool} {now : UInt64} {r : Registry} (hr : r.Consistent) :
    Logged acc now r [] [] [] (StepLog.idle r) := by
  rw [idle_eq_cascading acc now]
  exact (handling_unchanged hr (by simp)).cascading_logged

/-- **The log of a message.** Whatever a message from any connection, its log is `Logged`, with
the connection it logs in and the one it logs out as the only ones its handling adds or removes
by itself. -/
theorem messageLog_logged {room : Room} (hr : room.registry.Consistent) (id : PeerId)
    (msg : Message) (now : UInt64) :
    Logged room.accepts now room.registry (room.registry.joinedBy id msg)
      (room.registry.leftBy id msg) [] (room.messageLog id msg now) := by
  unfold messageLog
  split
  · next hc =>
    -- a closed connection is not listened to
    have hid : id ∉ room.registry.ids := fun hm => hr.not_closed_of_mem id hm (by simpa using hc)
    rw [Registry.joinedBy, if_neg (by simp [hc]), Registry.leftBy, if_neg (by simp [hid])]
    exact idle_logged hr
  · next hc =>
    have hc : room.registry.isClosed id = false := Bool.eq_false_iff.2 (by simpa using hc)
    split
    · next hnone =>
      obtain ⟨hj, hl⟩ := handled_none hr hc hnone
      rw [hj, hl]
      exact idle_logged hr
    · next registry sends d? hsome =>
      cases hcmd : msg.command with
      | login =>
        obtain ⟨hh, rfl⟩ := handled_login hr hc hcmd hsome
        rw [Registry.leftBy_of_ne (by simp [hcmd])]
        exact hh.cascading_logged
      | chat =>
        obtain ⟨hh, rfl⟩ := handled_chat hr hcmd hsome
        rw [Registry.joinedBy_of_ne (by simp [hcmd]), Registry.leftBy_of_ne (by simp [hcmd])]
        exact hh.cascading_logged
      | flower =>
        obtain ⟨hh, rfl⟩ := handled_flower hr hcmd hsome
        rw [Registry.joinedBy_of_ne (by simp [hcmd]), Registry.leftBy_of_ne (by simp [hcmd])]
        exact hh.cascading_logged
      | logout =>
        obtain ⟨hh, hlead, hid⟩ := handled_logout hr hcmd hsome
        have hsome' : d?.isSome = true := by
          cases d? <;> simp_all
        rw [Registry.joinedBy_of_ne (by simp [hcmd]), Registry.leftBy, if_pos ⟨hcmd, hid⟩, ← hlead,
          if_pos hsome']
        exact hh.cascading_logged
      | system => simp [handled, hcmd] at hsome

/-! ## The log of every step -/

namespace Step

/-- Whether a step is a LOGIN with a sender that is not blank. -/
def logsIn (st : Step) : Bool :=
  st.message?.any fun msg => msg.command == .login && !Text.isBlank msg.sender.toList

/-- Whether a step is its connection going away. -/
def releases : Step → Bool
  | .disconnect .. => true
  | _ => false

/-- Whether a step ends its connection's session by itself: a LOGOUT, or the connection going
away. -/
def logsOut (st : Step) : Bool :=
  st.releases || st.message?.any (·.command == .logout)

/-- The connection a step logs in: a LOGIN with a sender that is not blank, from a connection
with neither a session nor a closed mark. -/
def joined (st : Step) (r : Registry) : List PeerId :=
  if st.logsIn ∧ st.peer ∉ r.ids ∧ r.isClosed st.peer = false then [st.peer] else []

/-- The connection a step logs out by itself, when it has a session. -/
def lead (st : Step) (r : Registry) : List PeerId :=
  if st.logsOut ∧ st.peer ∈ r.ids then [st.peer] else []

/-- The connection whose closed mark a step lifts: its own, when it goes away. -/
def released (st : Step) : List PeerId :=
  if st.releases then [st.peer] else []

theorem mem_joined {st : Step} {r : Registry} {x : PeerId} :
    x ∈ st.joined r ↔ st.logsIn ∧ st.peer = x ∧ x ∉ r.ids ∧ r.isClosed x = false := by
  unfold joined
  split
  · next h =>
    rw [List.mem_singleton]
    constructor
    · rintro rfl
      exact ⟨h.1, rfl, h.2⟩
    · rintro ⟨-, rfl, -⟩
      rfl
  · next h =>
    simp only [List.not_mem_nil, false_iff]
    rintro ⟨hin, rfl, hrest⟩
    exact h ⟨hin, hrest⟩

theorem mem_lead {st : Step} {r : Registry} {x : PeerId} :
    x ∈ st.lead r ↔ st.logsOut ∧ st.peer = x ∧ x ∈ r.ids := by
  unfold lead
  split
  · next h =>
    rw [List.mem_singleton]
    constructor
    · rintro rfl
      exact ⟨h.1, rfl, h.2⟩
    · rintro ⟨-, rfl, -⟩
      rfl
  · next h =>
    simp only [List.not_mem_nil, false_iff]
    rintro ⟨hout, rfl, hid⟩
    exact h ⟨hout, hid⟩

theorem mem_released {st : Step} {x : PeerId} : x ∈ st.released ↔ st.releases ∧ st.peer = x := by
  unfold released
  split
  · next h => simp [h, eq_comm]
  · next h => simp [h]

/-- A step that lifts a closed mark carries no message, so it logs nobody in. -/
theorem logsIn_of_releases {st : Step} (h : st.releases) : st.logsIn = false := by
  cases st <;> simp_all [releases, logsIn, message?]

theorem logsOut_of_releases {st : Step} (h : st.releases) : st.logsOut := by
  simp [logsOut, h]

theorem joined_of_message? {st : Step} {msg : Message} (h : st.message? = some msg)
    (r : Registry) : st.joined r = r.joinedBy st.peer msg := by
  simp [joined, logsIn, h, Registry.joinedBy, and_assoc]

theorem lead_of_message? {st : Step} {msg : Message} (h : st.message? = some msg)
    (hrel : st.releases = false) (r : Registry) : st.lead r = r.leftBy st.peer msg := by
  simp [lead, logsOut, h, hrel, Registry.leftBy]

end Step

theorem isClosed_release {r : Registry} (hr : r.Consistent) (x y : PeerId) :
    (r.release x).isClosed y = (r.isClosed y && decide (y ∉ [x])) := by
  rw [Bool.eq_iff_iff]
  simp [Registry.isClosed, Registry.release, hr.nodup_closed.mem_erase_iff, and_comm]

/-- Lifting a closed mark after the cascade keeps everything but that mark. -/
theorem Logged.release {acc : PeerId → Bool} {now : UInt64} {r₀ : Registry}
    {joined lead : List PeerId} {log : StepLog} (h : Logged acc now r₀ joined lead [] log)
    (x : PeerId) : Logged acc now r₀ joined lead [x] { log with registry := log.registry.release x } :=
  { h with
    consistent := Registry.apply_consistent h.consistent (.release x)
    closed := fun y => by
      rw [isClosed_release h.consistent, h.closed]
      simp }

/-- A connection that goes away departs when it has a session, and is asked to close. -/
theorem leaving_handling {room : Room} (hr : room.registry.Consistent) (id : PeerId)
    (now : UInt64) :
    Handling room.accepts now room.registry [] room.registry.active (room.leaving id now).1
      ((room.leaving id now).2.1 ++ [(id, .close)]) (room.leaving id now).2.2 ∧
    (room.leaving id now).2.2.toList.map (·.peer) =
      if id ∈ room.registry.ids then [id] else [] := by
  unfold leaving
  split
  · next hnone =>
    have hid : id ∉ room.registry.ids := fun hm => by
      obtain ⟨_, -, hd⟩ := departure?_of_mem hr hm
      rw [hd] at hnone
      cases hnone
    exact ⟨handling_unchanged hr (by simp), by simp [hid]⟩
  · next d registry hd =>
    obtain ⟨hh, hpeer⟩ := handling_departure hr hd
    exact ⟨hh, by simp [hpeer, mem_ids_of_departure? hd]⟩

/-- **The log of every step.** From a consistent registry, the log of any step is `Logged`: the
connection a LOGIN logs in joins the sessions, the connection of a LOGOUT or of a connection
going away departs when it has a session, and a connection going away has its closed mark
lifted at the end. -/
theorem stepLog_logged {room : Room} (hr : room.registry.Consistent) (st : Step) :
    Logged room.accepts st.now room.registry (st.joined room.registry) (st.lead room.registry)
      st.released (room.stepLog st) := by
  cases st with
  | message id msg now =>
    rw [Step.joined_of_message? rfl, Step.lead_of_message? rfl rfl]
    exact messageLog_logged hr id msg now
  | text id line now =>
    cases hline : Line.decode line with
    | some msg =>
      have hst : (Step.text id line now).message? = some msg := hline
      rw [Step.joined_of_message? hst, Step.lead_of_message? hst rfl]
      simp only [stepLog, hline]
      exact messageLog_logged hr id msg now
    | none =>
      -- a line that is not of the protocol is ignored
      have hj : (Step.text id line now).joined room.registry = [] := by
        simp [Step.joined, Step.logsIn, Step.message?, hline]
      have hl : (Step.text id line now).lead room.registry = [] := by
        simp [Step.lead, Step.logsOut, Step.releases, Step.message?, hline]
      rw [hj, hl]
      simp only [stepLog, hline]
      exact idle_logged hr
  | disconnect id now =>
    obtain ⟨hh, hlead⟩ := leaving_handling hr id now
    have hj : (Step.disconnect id now).joined room.registry = [] := by
      simp [Step.joined, Step.logsIn, Step.message?]
    have hl : (Step.disconnect id now).lead room.registry =
        if id ∈ room.registry.ids then [id] else [] := by
      simp [Step.lead, Step.logsOut, Step.releases, Step.peer]
    rw [hj, hl, ← hlead]
    exact hh.cascading_logged.release id

/-! ## Reachable rooms -/

theorem step_registry (room : Room) (st : Step) :
    (room.step st).registry = (room.stepLog st).registry := by
  rw [step_eq]

theorem step_consistent {room : Room} (hr : room.registry.Consistent) (st : Step) :
    (room.step st).registry.Consistent := by
  rw [step_registry]
  exact (stepLog_logged hr st).consistent

/-- Every action of a script keeps the registry consistent: the steps by their logs, the calls
on the registry by `Registry.apply_consistent`, and the rest leave it alone. -/
theorem perform_consistent {room : Room} (hr : room.registry.Consistent) (a : Action) :
    (room.perform a).2.registry.Consistent := by
  cases a with
  | message c msg now => exact step_consistent hr (.message c msg now)
  | text c line now => exact step_consistent hr (.text c line now)
  | disconnect c now => exact step_consistent hr (.disconnect c now)
  | registryLogin c msg =>
    have h := Registry.apply_consistent hr
      (.login c ((room.peer? c).map (·.addr) |>.getD defaultAddr)
        ((room.peer? c).map (·.terminal) |>.getD .console) msg)
    simp only [perform]
    split
    · next hsome => simpa [Registry.apply, hsome] using h
    · exact hr
  | registryLogout c =>
    have h := Registry.apply_consistent hr (.logout c)
    simp only [perform]
    split
    · next hsome => simpa [Registry.apply, hsome] using h
    · exact hr
  | registryRelease c => exact Registry.apply_consistent hr (.release c)
  | registryRecordFlower c time => exact Registry.apply_consistent hr (.recordFlower c time)
  | registryNickname c | registryLastFlower c =>
    simp only [perform]
    split <;> exact hr
  | connect | drop | isClosed | registryFlowerAllowed => exact hr

/-- The rooms a script can lead to from the empty room: any action, including the calls on the
registry, and taking every connection's queued items. -/
inductive Reachable : Room → Prop
  | empty : Reachable {}
  | perform {room : Room} (a : Action) : Reachable room → Reachable (room.perform a).2
  | takeOutbound {room : Room} : Reachable room → Reachable room.takeOutbound.2

theorem Reachable.step {room : Room} (h : Reachable room) (st : Step) : Reachable (room.step st) := by
  cases st with
  | message id msg now => exact h.perform (.message id msg now)
  | text id line now => exact h.perform (.text id line now)
  | disconnect id now => exact h.perform (.disconnect id now)

theorem Reachable.foldl_perform {room : Room} (h : Reachable room) (actions : List Action) :
    Reachable (actions.foldl (fun room a => (room.perform a).2) room) := by
  induction actions generalizing room with
  | nil => exact h
  | cons a actions ih => exact ih (h.perform a)

/-- **Reachable rooms are consistent.** -/
theorem Reachable.consistent {room : Room} (h : Reachable room) : room.registry.Consistent := by
  induction h with
  | empty => exact Registry.consistent_empty
  | perform a _ ih => exact perform_consistent ih a
  | takeOutbound _ ih => exact ih

end ChatHub.Room
