import ChatHub.Proofs.TextDelivery
import ChatHub.Proofs.Ignored
/-!
# ChatHub — what each session is offered

Three handlers of the room push one item to every session, in login order: a CHAT and an
accepted FLOWER push a copy of the message, a LOGIN that opens a session pushes a greeting. Only
then are the connections whose pushes failed evicted, with the notices of their departures. This
module says, for every reachable room, exactly what each session is offered:

* **`messageLog_of_handled`** — a message step that departs nobody by itself is its handling's
  pushes followed by nothing but close requests and departure notices;
* **`chat_flower_broadcast`** — a CHAT or accepted FLOWER from a session offers each session of
  the room one copy, from "you" as a line to the sender itself and from the sender's nickname
  to everyone else, natively exactly on a console; no other field of the message counts;
* **`login_greeting`** — a LOGIN that opens a session adds it at the end and offers each
  session one notice from the hub with the new number of sessions, natively exactly on a
  console, the newcomer included.

In both, the registry is left as the handler left it, less the connections a push failed for.
-/

namespace ChatHub.Room

/-! ## A step before its evictions -/

/-- What the log of a message step is, from the registry `r₀` before it, when the handling of
the message left `registry` after the pushes `sends` and departed nobody by itself: its sessions
are the handling's, one per connection; its pushes are the handling's, then nothing but close
requests and departure notices; the connections that depart are exactly those a push failed for;
the sessions left are the others, and the departed are closed. -/
structure Evicting (acc : PeerId → Bool) (now : UInt64) (r₀ registry : Registry)
    (sends : List (PeerId × Outbound)) (log : StepLog) : Prop where
  sessions : log.sessions = registry.active
  once : (log.sessions.map (·.peer)).Nodup
  evictions : ∃ rest, log.sends = sends ++ rest ∧
    ∀ p ∈ rest, p.2 = .close ∨ ∃ d ∈ log.departures, p ∈ d.sends now
  departed_iff : ∀ x, x ∈ log.departures.map (·.peer) ↔ x ∈ failedOf acc log.sends
  active : log.registry.active = registry.active.filter (·.peer ∉ log.departures.map (·.peer))
  closed : ∀ x, log.registry.isClosed x =
    (r₀.isClosed x || decide (x ∈ log.departures.map (·.peer)))

/-- **A handling, then its evictions.** A message from a connection that is not closed, whose
handling departs nobody by itself, is that handling followed by the eviction of the connections
its pushes failed for. -/
theorem messageLog_of_handled {room : Room} (hr : room.registry.Consistent) {id : PeerId}
    {msg : Message} {now : UInt64} {registry : Registry} {sends : List (PeerId × Outbound)}
    (hc : room.registry.isClosed id = false)
    (h : room.handled id msg now = some (registry, sends, none)) :
    Evicting room.accepts now room.registry registry sends (room.messageLog id msg now) := by
  have hlog : room.messageLog id msg now =
      .cascading room.accepts now registry.active registry sends none := by
    simp [messageLog, hc, h]
  -- a LOGOUT that does something departs its connection, so this is no LOGOUT
  have hleft : room.registry.leftBy id msg = [] :=
    Registry.leftBy_of_ne fun hcmd => by simp [handled, hcmd] at h
  have hlogged := messageLog_logged hr id msg now
  rw [hleft] at hlogged
  have hsessions : (room.messageLog id msg now).sessions = registry.active := by
    rw [hlog]
    rfl
  refine ⟨hsessions, hlogged.sessions_nodup, ⟨_, by rw [hlog]; rfl, fun p hp => ?_⟩,
    fun x => by simpa using hlogged.departs x, by rw [hlogged.active, hsessions],
    fun x => by simpa using hlogged.closed x⟩
  rw [hlog]
  simpa [StepLog.cascading] using mem_popSends hp

theorem itemFor_console (m : Message) (t : Terminal) :
    itemFor m (t == .console) = if t = .console then .message m else .text (Line.encode m) := by
  cases t <;> rfl

/-! ## CHAT and FLOWER -/

/-- The copy of a CHAT or FLOWER `msg` that goes out under a sender name: a CHAT carries its
content, a FLOWER the terminal of its sender's session and the words "<sender> sent a shower of
flowers"; both carry the time of the step and nothing else of `msg`. -/
def copyMessage (origin : Session) (msg : Message) (now : UInt64) (sender : String) : Message :=
  if msg.command = .flower then
    { Message.flower sender origin.terminal now with
      content := sender ++ " sent a shower of flowers" }
  else Message.chat sender msg.content now

section Copies

variable {origin : Session} {msg : Message} {now : UInt64}

theorem copyMessage_of_chat (h : msg.command = .chat) :
    copyMessage origin msg now = fun sender => Message.chat sender msg.content now := by
  funext sender
  simp [copyMessage, h]

theorem copyMessage_of_flower (h : msg.command = .flower) :
    copyMessage origin msg now = flowerMessage origin now := by
  funext sender
  simp [copyMessage, h, flowerMessage]

end Copies

/-- What a session `r` is offered from a broadcast by connection `c` under `nickname`: its own
copy from "you", as a line, when `r` is `c`; the copy from `nickname` natively when `r` is on a
console, and as a line otherwise. -/
def offerTo (c : PeerId) (nickname : String) (copy : String → Message) (r : Session) : Outbound :=
  let m := copy (if r.peer = c then selfSender else nickname)
  if r.peer ≠ c ∧ r.terminal = .console then .message m else .text (Line.encode m)

theorem copyFor_eq_offerTo {origin : Session} {c : PeerId} (hpeer : origin.peer = c)
    (make : String → Message) (r : Session) :
    copyFor origin make r = offerTo c origin.nickname make r := by
  subst hpeer
  by_cases hr : r.peer = origin.peer
  · simp [copyFor, offerTo, itemFor, hr]
  · cases ht : r.terminal <;> simp [copyFor, offerTo, itemFor, hr, ht]

theorem map_offerTo_recordFlower (r : Registry) (c : PeerId) (time : UInt64) (nickname : String)
    (copy : String → Message) :
    (r.recordFlower c time).active.map (fun s => (s.peer, offerTo c nickname copy s)) =
      r.active.map fun s => (s.peer, offerTo c nickname copy s) := by
  simp only [Registry.recordFlower, List.map_map]
  apply List.map_congr_left
  intro s _
  simp only [Function.comp_apply]
  -- an offer reads only who the session is, never its last flower
  split <;> rfl

theorem handler_congr {room : Room} {id : PeerId} {now : UInt64} {msg msg' : Message}
    (hcmd : msg'.command = msg.command) (hcf : msg.command = .chat ∨ msg.command = .flower)
    (hchat : msg.command = .chat → msg'.content = msg.content) :
    room.handler id msg' now = room.handler id msg now := by
  rcases hcf with h | h
  · simp [handler, chat, hcmd, h, hchat h]
  · simp [handler, hcmd, h]

/-- What a CHAT or accepted FLOWER `msg` from `c`, whose session is `origin`, does at time `now`,
with `log` the step's log:
* the room after it is the log's registry with the log's pushes applied in order;
* before any eviction, every session of the room is offered one item, in login order, and no
  other connection anything: `offerTo` the copy of the message under the sender's nickname;
* a message of the same command, and for a CHAT with the same content, leaves the same room;
* the connections that depart are exactly those a push failed for;
* the sessions left are the room's, with `c`'s last flower set to `now` for a FLOWER, less the
  departed, and the departed are closed. -/
structure Broadcast (room : Room) (c : PeerId) (msg : Message) (now : UInt64) (origin : Session)
    (log : StepLog) : Prop where
  step_eq : room.handleAt c msg now = { room.pushAll log.sends with registry := log.registry }
  offers : ∃ rest, log.sends =
      room.registry.active.map (fun r => (r.peer, offerTo c origin.nickname
        (copyMessage origin msg now) r)) ++ rest ∧
    ∀ p ∈ rest, p.2 = .close ∨ ∃ d ∈ log.departures, p ∈ d.sends now
  once : (room.registry.active.map (·.peer)).Nodup
  spoofed : ∀ msg' : Message, msg'.command = msg.command →
    (msg.command = .chat → msg'.content = msg.content) →
    room.handleAt c msg' now = room.handleAt c msg now
  departed_iff : ∀ x, x ∈ log.departures.map (·.peer) ↔ x ∈ failedOf room.accepts log.sends
  active : log.registry.active =
    (room.registry.active.map fun s =>
      if msg.command = .flower ∧ s.peer = c then { s with lastFlower := some now } else s).filter
      (·.peer ∉ log.departures.map (·.peer))
  closed : ∀ x, log.registry.isClosed x =
    (room.registry.isClosed x || decide (x ∈ log.departures.map (·.peer)))

theorem handled_broadcast {room : Room} {c : PeerId} {msg : Message} {now : UInt64}
    {origin : Session} (ho : room.registry.session? c = some origin)
    (hcmd : msg.command = .chat ∨ msg.command = .flower ∧ room.registry.flowerAllowed c now) :
    room.handled c msg now = some (
      { room.registry with active := room.registry.active.map fun s =>
          if msg.command = .flower ∧ s.peer = c then { s with lastFlower := some now } else s },
      room.registry.active.map (fun r => (r.peer, offerTo c origin.nickname
        (copyMessage origin msg now) r)), none) := by
  have hpeer := (Registry.mem_ids_of_session? ho).2
  rcases hcmd with hcmd | ⟨hcmd, hal⟩
  · -- a CHAT leaves the registry and copies its content
    have hcopy : (copyFor origin fun sender => Message.chat sender msg.content now) =
        offerTo c origin.nickname (copyMessage origin msg now) := by
      funext r
      rw [copyFor_eq_offerTo hpeer, copyMessage_of_chat hcmd]
    simp [handled, hcmd, ho, deliveries, hcopy]
  · -- an accepted FLOWER records its time first
    have hcopy : copyFor origin (flowerMessage origin now) =
        offerTo c origin.nickname (copyMessage origin msg now) := by
      funext r
      rw [copyFor_eq_offerTo hpeer, copyMessage_of_flower hcmd]
    simp only [handled, hcmd, ho, Option.map_some, hpeer, hal, Bool.not_true, Bool.false_eq_true,
      if_false]
    rw [deliveries, hcopy, map_offerTo_recordFlower]
    simp [Registry.recordFlower]

/-- **A CHAT or accepted FLOWER offers every session one copy.** For every reachable room, a CHAT
from a connection with a session, or a FLOWER from one whose cooldown has run out, offers each
session of the room, in login order, one copy: from "you" and as a line to the sender itself,
from the sender's nickname to everyone else, natively exactly on a console. Nothing of the
message but a CHAT's content counts. The registry keeps its sessions, with the flower's time
recorded, less the connections a push failed for, which depart and are closed. -/
theorem chat_flower_broadcast {room : Room} (hroom : Reachable room) {c : PeerId}
    (hc : c ∈ room.registry.ids) {msg : Message} {now : UInt64}
    (hcmd : msg.command = .chat ∨ msg.command = .flower ∧ room.registry.flowerAllowed c now) :
    ∃ origin, room.registry.session? c = some origin ∧
      Broadcast room c msg now origin (room.stepLog (.message c msg now)) := by
  show ∃ origin, _ ∧ Broadcast room c msg now origin (room.messageLog c msg now)
  have hr := hroom.consistent
  obtain ⟨origin, ho⟩ := Option.isSome_iff_exists.1 ((Registry.session?_isSome_iff _ _).2 hc)
  have hcf : msg.command = .chat ∨ msg.command = .flower := hcmd.imp id And.left
  have he := messageLog_of_handled hr (Registry.isClosed_eq_false_of_mem hr hc)
    (handled_broadcast ho hcmd)
  refine ⟨origin, ho, messageLog_eq room c msg now, he.evictions, hr.nodup_ids, ?_, he.departed_iff,
    he.active, he.closed⟩
  intro msg' hcmd' hchat
  rw [handleAt_eq, handleAt_eq, handler_congr hcmd' hcf hchat]

/-- Ann on a console and bob on a web socket have sessions; a third connection, on a console, has
none yet. -/
def twoOnlineOneWaiting : Room :=
  performAll {} [.connect "10.0.0.1" .console, .connect "10.0.0.2" .webSocket,
    .connect "10.0.0.3" .console, .registryLogin 0 (.login "ann" .console 1),
    .registryLogin 1 (.login "bob" .webSocket 2)]

/-- Ann's first FLOWER, sent under another name from another terminal, is broadcast as hers. -/
theorem chat_flower_broadcast_spoofed_flower :
    Reachable twoOnlineOneWaiting ∧ 0 ∈ twoOnlineOneWaiting.registry.ids ∧
      ((Message.flower "mallory" .webSocket 0).command = .chat ∨
        (Message.flower "mallory" .webSocket 0).command = .flower ∧
          twoOnlineOneWaiting.registry.flowerAllowed 0 5) ∧
      ∃ origin, twoOnlineOneWaiting.registry.session? 0 = some origin ∧
        Broadcast twoOnlineOneWaiting 0 (Message.flower "mallory" .webSocket 0) 5 origin
          (twoOnlineOneWaiting.stepLog (.message 0 (Message.flower "mallory" .webSocket 0) 5)) :=
  have hroom : Reachable twoOnlineOneWaiting := Reachable.empty.foldl_perform _
  have hc : 0 ∈ twoOnlineOneWaiting.registry.ids := by decide
  have hcmd : (Message.flower "mallory" .webSocket 0).command = .chat ∨
      (Message.flower "mallory" .webSocket 0).command = .flower ∧
        twoOnlineOneWaiting.registry.flowerAllowed 0 5 := .inr ⟨rfl, by decide⟩
  ⟨hroom, hc, hcmd, chat_flower_broadcast hroom hc hcmd⟩

/-! ## LOGIN -/

/-- The session a LOGIN from connection `c` on `p` opens: the nickname as sent, uncut; the
terminal the LOGIN names, or else the one the connection came in on; the connection's address;
and no flower yet. -/
def newcomer (c : PeerId) (p : Peer) (msg : Message) : Session :=
  { peer := c, nickname := msg.sender, remoteAddr := p.addr,
    terminal := msg.terminal.getD p.terminal, lastFlower := none }

/-- The greeting a session `r` is offered when `c` logs in as `nickname` and `n` sessions are
online: a notice from the hub with the time and the count, "connected to server..." for `c` and
"<nickname> joined the room..." for the others; natively on a console, as a line otherwise. -/
def greetingTo (c : PeerId) (nickname : String) (n : Nat) (now : UInt64) (r : Session) :
    Outbound :=
  let m : Message :=
    { command := .system, sender := "admin", sendingTime := now, onlineCount := UInt32.ofNat n,
      content := if r.peer = c then "connected to server..." else nickname ++ " joined the room..." }
  if r.terminal = .console then .message m else .text (Line.encode m)

theorem greeting_eq_greetingTo (c : PeerId) (msg : Message) (n : Nat) (now : UInt64)
    (r : Session) : greeting c msg n now r = greetingTo c msg.sender n now r := by
  by_cases hr : r.peer = c <;>
    simp [greeting, greetingTo, itemFor_console, hr, Message.system, hubSender, online]

/-- What a LOGIN `msg` from `c`, a connection on `p`, does at time `now`, with `log` the step's
log:
* the room after it is the log's registry with the log's pushes applied in order;
* the sessions are the room's followed by `c`'s new one (`newcomer`);
* before any eviction, each of those sessions is offered one greeting, in login order, and no
  other connection anything: `greetingTo`, with the new number of sessions;
* the connections that depart are exactly those a push failed for;
* the sessions left are those less the departed, and the departed are closed. -/
structure Greeting (room : Room) (c : PeerId) (msg : Message) (now : UInt64) (p : Peer)
    (log : StepLog) : Prop where
  step_eq : room.handleAt c msg now = { room.pushAll log.sends with registry := log.registry }
  sessions : log.sessions = room.registry.active ++ [newcomer c p msg]
  offers : ∃ rest, log.sends =
      log.sessions.map (fun r => (r.peer, greetingTo c msg.sender log.sessions.length now r)) ++
        rest ∧
    ∀ q ∈ rest, q.2 = .close ∨ ∃ d ∈ log.departures, q ∈ d.sends now
  once : (log.sessions.map (·.peer)).Nodup
  departed_iff : ∀ x, x ∈ log.departures.map (·.peer) ↔ x ∈ failedOf room.accepts log.sends
  active : log.registry.active = log.sessions.filter (·.peer ∉ log.departures.map (·.peer))
  closed : ∀ x, log.registry.isClosed x =
    (room.registry.isClosed x || decide (x ∈ log.departures.map (·.peer)))

theorem handled_greeting {room : Room} {c : PeerId} {msg : Message} {now : UInt64} {p : Peer}
    (hid : c ∉ room.registry.ids) (hc : room.registry.isClosed c = false)
    (hp : room.peer? c = some p) (hcmd : msg.command = .login)
    (hname : Text.trim msg.sender.toList ≠ []) :
    room.handled c msg now = some (
      { room.registry with active := room.registry.active ++ [newcomer c p msg] },
      (room.registry.active ++ [newcomer c p msg]).map (fun r =>
        (r.peer, greetingTo c msg.sender (room.registry.active.length + 1) now r)), none) := by
  have hblank := isBlank_eq_false_of_trim hname
  have hnick := nickname?_isSome_eq_false hid
  have hsession : Registry.loginSession c p.addr p.terminal msg = newcomer c p msg := rfl
  simp [handled, hcmd, hblank, hnick, hp, Registry.onLogin_of_not_mem hc hid, hsession,
    deliveries, greeting_eq_greetingTo]

/-- **A LOGIN greets every session.** For every reachable room, a LOGIN with a nickname that does
not trim to nothing, from a connection with neither a session nor a closed mark, adds its session
at the end: the nickname uncut, the terminal the LOGIN names or else the connection's, the
connection's address, no flower. Each session, the newcomer included, is then offered one notice
from the hub at the step's time with the new number of sessions: "connected to server..." to the
newcomer, "<nickname> joined the room..." to the others, natively exactly on a console. The
connections a push failed for depart and are closed. -/
theorem login_greeting {room : Room} (hroom : Reachable room) {c : PeerId}
    (hid : c ∉ room.registry.ids) (hc : room.registry.isClosed c = false) {p : Peer}
    (hp : room.peer? c = some p) {msg : Message} {now : UInt64} (hcmd : msg.command = .login)
    (hname : Text.trim msg.sender.toList ≠ []) :
    Greeting room c msg now p (room.stepLog (.message c msg now)) := by
  show Greeting room c msg now p (room.messageLog c msg now)
  have hh : room.handled c msg now = _ := handled_greeting hid hc hp hcmd hname
  have he := messageLog_of_handled hroom.consistent hc hh
  have hlen : (room.messageLog c msg now).sessions.length = room.registry.active.length + 1 := by
    simp [he.sessions]
  obtain ⟨rest, hsends, hrest⟩ := he.evictions
  refine ⟨messageLog_eq room c msg now, he.sessions, ⟨rest, ?_, hrest⟩, he.once, he.departed_iff,
    by rw [he.active, he.sessions], he.closed⟩
  rw [hlen, he.sessions]
  exact hsends

/-- The waiting connection logs in as carol without naming a terminal, and keeps its console. -/
theorem login_greeting_carol :
    Reachable twoOnlineOneWaiting ∧ 2 ∉ twoOnlineOneWaiting.registry.ids ∧
      twoOnlineOneWaiting.registry.isClosed 2 = false ∧
      twoOnlineOneWaiting.peer? 2 = some { addr := "10.0.0.3", terminal := .console } ∧
      (⟨.login, 3, 0, "carol", "", "", none⟩ : Message).command = .login ∧
      Text.trim (⟨.login, 3, 0, "carol", "", "", none⟩ : Message).sender.toList ≠ [] ∧
      Greeting twoOnlineOneWaiting 2 ⟨.login, 3, 0, "carol", "", "", none⟩ 5
        { addr := "10.0.0.3", terminal := .console }
        (twoOnlineOneWaiting.stepLog (.message 2 ⟨.login, 3, 0, "carol", "", "", none⟩ 5)) :=
  have hroom : Reachable twoOnlineOneWaiting := Reachable.empty.foldl_perform _
  have hid : 2 ∉ twoOnlineOneWaiting.registry.ids := by decide
  have hc : twoOnlineOneWaiting.registry.isClosed 2 = false := by decide
  have hp : twoOnlineOneWaiting.peer? 2 = some { addr := "10.0.0.3", terminal := .console } := by
    decide
  have hname : Text.trim (⟨.login, 3, 0, "carol", "", "", none⟩ : Message).sender.toList ≠ [] := by
    decide
  ⟨hroom, hid, hc, hp, rfl, hname, login_greeting hroom hid hc hp rfl hname⟩

end ChatHub.Room
