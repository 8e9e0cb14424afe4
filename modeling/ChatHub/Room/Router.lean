import ChatHub.Line
import ChatHub.Room.Registry
/-!
# The room: sessions and the messages between them

A room holds the registry and the connections. Each message from a connection is handled at a
time `now`:

* LOGIN with a nickname that is not blank, from a connection without a session, adds a session
  and tells everyone: the newcomer gets "connected to server...", the others
  "<nickname> joined the room...".
* CHAT from a session goes to every session, the sender's own copy with the sender "you".
* FLOWER from a session goes to every session like a CHAT, with the content
  "<sender> sent a shower of flowers", at most once a cooldown; a FLOWER too soon gets only a
  reply to the sender with the seconds left.
* LOGOUT from a session removes it, tells the others, and closes the connection.
* SYSTEM from a connection, and anything from a closed connection, is dropped.

A console session gets the message itself, except its own copy of a CHAT or FLOWER; everyone
else gets the message's text line. Whenever a push fails, the connection is evicted after the
message is handled: it is closed and logged out, and the others are told. Evictions run as a
stack, most recent failure first, and an eviction's own failed pushes go on top.
-/
namespace ChatHub

/-- The registry and the connections, numbered by `PeerId`. -/
structure Room where
  registry : Room.Registry := {}
  peers : Array Room.Peer := #[]
  deriving Repr

namespace Room

/-- A new connection; the result is its number. -/
def connect (room : Room) (addr : String) (terminal : Terminal) : PeerId × Room :=
  (room.peers.size, { room with peers := room.peers.push { addr, terminal } })

/-- The connection with a number. -/
def peer? (room : Room) (id : PeerId) : Option Peer :=
  room.peers[id]?

/-- Pushes an item to a connection; the result says whether it was taken. -/
def push (room : Room) (id : PeerId) (item : Outbound) : Bool × Room :=
  match room.peers[id]? with
  | some p =>
    let (ok, p) := p.push item
    (ok, { room with peers := room.peers.setIfInBounds id p })
  | none => (false, room)

/-- Asks a connection to close; a connection that is gone is left as it is. -/
def close (room : Room) (id : PeerId) : Room :=
  (room.push id .close).2

theorem push_registry (room : Room) (id : PeerId) (item : Outbound) :
    (room.push id item).2.registry = room.registry := by
  unfold push
  split <;> rfl

theorem close_registry (room : Room) (id : PeerId) : (room.close id).registry = room.registry :=
  push_registry room id .close

/-- The item a session gets for a message: the message itself when `native`, else its line. -/
def itemFor (msg : Message) (native : Bool) : Outbound :=
  if native then .message msg else .text (Line.encode msg)

/-- Delivers one item to each session in order, each built from the session; the result is the
connections whose push failed, in order. -/
def deliverAll (room : Room) (item : Session → Outbound) :
    List Session → List PeerId × Room
  | [] => ([], room)
  | s :: rest =>
    let (ok, room) := room.push s.peer (item s)
    let (failed, room) := room.deliverAll item rest
    (if ok then failed else s.peer :: failed, room)

theorem deliverAll_registry (room : Room) (item : Session → Outbound) (ss : List Session) :
    (room.deliverAll item ss).2.registry = room.registry := by
  induction ss generalizing room with
  | nil => rfl
  | cons s rest ih =>
    simp only [deliverAll]
    rw [ih, push_registry]

/-- The online count a notice carries. -/
def online (n : Nat) : UInt32 :=
  UInt32.ofNat n

/-- Removes a connection's session and tells the remaining sessions that it left. None when the
connection had no session. -/
def logout (room : Room) (id : PeerId) (now : UInt64) : Option (List PeerId × Room) :=
  match room.registry.onLogout id with
  | none => none
  | some (nickname, registry) =>
    let room := { room with registry }
    let notice := Message.system (online registry.onlineCount) (nickname ++ " left the room...") now
    some (room.deliverAll (fun s => itemFor notice (s.terminal == .console)) registry.active)

theorem logout_active_length {room room' : Room} {id : PeerId} {now : UInt64}
    {failed : List PeerId} (h : room.logout id now = some (failed, room')) :
    room'.registry.active.length < room.registry.active.length := by
  unfold logout at h
  split at h
  · simp at h
  · rename_i nickname registry hr
    simp only [Option.some.injEq] at h
    have hreg := deliverAll_registry { room with registry }
      (fun s => itemFor (Message.system (online registry.onlineCount)
        (nickname ++ " left the room...") now) (s.terminal == .console)) registry.active
    rw [h] at hreg
    simp only at hreg
    rw [hreg]
    unfold Registry.onLogout at hr
    split at hr
    · simp at hr
    · rename_i s hs
      simp only [Option.some.injEq, Prod.mk.injEq] at hr
      obtain ⟨-, rfl⟩ := hr
      simp only [Registry.session?] at hs
      have hm := List.mem_of_find?_eq_some hs
      rw [List.length_eraseP_of_mem hm (List.find?_some hs)]
      have := List.length_pos_of_mem hm
      omega

/-- Evicts the connections on a stack, top first: each is closed and logged out, and the
connections whose pushes failed while the others were told go on top of the stack. -/
def evict (room : Room) (stack : List PeerId) (now : UInt64) : Room :=
  match stack with
  | [] => room
  | id :: rest =>
    let closed := room.close id
    match h : closed.logout id now with
    | none => closed.evict rest now
    | some (failed, room') =>
      have : room'.registry.active.length < room.registry.active.length := by
        have := logout_active_length h
        rwa [close_registry] at this
      room'.evict (failed.reverse ++ rest) now
termination_by (room.registry.active.length, stack.length)
decreasing_by
  · apply Prod.Lex.right'
    · simp [close_registry]
    · simp
  · exact Prod.Lex.left _ _ this

/-- A LOGIN: the failed pushes of the greeting, and the room after it. -/
def login (room : Room) (id : PeerId) (msg : Message) (now : UInt64) : List PeerId × Room :=
  if Text.isBlank msg.sender.toList then ([], room)
  else if (room.registry.nickname? id).isSome then ([], room)
  else
    let own := (room.peer? id).map (·.terminal) |>.getD .console
    let addr := (room.peer? id).map (·.addr) |>.getD defaultAddr
    match room.registry.onLogin id addr own msg with
    | none => ([], room)
    | some (count, registry) =>
      let room := { room with registry }
      let greeting (s : Session) : Outbound :=
        let content :=
          if s.peer == id then "connected to server..." else msg.sender ++ " joined the room..."
        itemFor (Message.system (online count) content now) (s.terminal == .console)
      room.deliverAll greeting registry.active

/-- The copy of a CHAT or FLOWER that a session gets from `origin`: its own copy is from "you"
and always a text line. -/
def copyFor (origin : Session) (make : String → Message) (s : Session) : Outbound :=
  let own := s.peer == origin.peer
  itemFor (make (if own then selfSender else origin.nickname)) (s.terminal == .console && !own)

/-- A CHAT: the failed pushes and the room after it. -/
def chat (room : Room) (id : PeerId) (msg : Message) (now : UInt64) : List PeerId × Room :=
  match room.registry.session? id with
  | none => ([], room)
  | some origin =>
    room.deliverAll (copyFor origin fun sender => Message.chat sender msg.content now)
      room.registry.active

/-- The whole seconds a session still has to wait for its next flower. -/
def secondsLeft (last now : UInt64) : Nat :=
  flowerCooldown / 1000 - (now.toNat - last.toNat) / 1000

/-- The reply to a FLOWER sent too soon. -/
def cooldownReply (online : UInt32) (seconds : Nat) (now : UInt64) : Message :=
  { Message.system online
      ("you are sending flowers too often, please try again in " ++
        String.ofList (Text.Decimal.write seconds) ++ " seconds") now with
    sender := selfSender }

/-- A FLOWER: the failed pushes and the room after it. -/
def flower (room : Room) (id : PeerId) (now : UInt64) : List PeerId × Room :=
  match room.registry.session? id with
  | none => ([], room)
  | some origin =>
    if !room.registry.flowerAllowed origin.peer now then
      let seconds := secondsLeft (origin.lastFlower.getD now) now
      let reply := cooldownReply (online room.registry.onlineCount) seconds now
      let (ok, room) := room.push id (.text (Line.encode reply))
      (if ok then [] else [id], room)
    else
      let room := { room with registry := room.registry.recordFlower origin.peer now }
      let make (sender : String) : Message :=
        { Message.flower sender origin.terminal now with
          content := sender ++ " sent a shower of flowers" }
      room.deliverAll (copyFor origin make) room.registry.active

/-- Handles a message from a connection at a time. -/
def handleAt (room : Room) (id : PeerId) (msg : Message) (now : UInt64) : Room :=
  if room.registry.isClosed id then room
  else
    let (failed, room) :=
      match msg.command with
      | .login => room.login id msg now
      | .chat => room.chat id msg now
      | .flower => room.flower id now
      | .logout =>
        match room.logout id now with
        | some (failed, room) => (failed, room.close id)
        | none => ([], room)
      | .system => ([], room)
    room.evict failed.reverse now

/-- Handles a text line from a connection: a line of the protocol is handled as its message,
any other line is ignored. -/
def handleText (room : Room) (id : PeerId) (line : String) (now : UInt64) : Room :=
  match Line.decode line with
  | some msg => room.handleAt id msg now
  | none => room

/-- A connection went away: its session, if any, is logged out, the connection is closed, the
failed pushes are evicted, and its closed mark is lifted. -/
def disconnect (room : Room) (id : PeerId) (now : UInt64) : Room :=
  let (failed, room) :=
    match room.logout id now with
    | some (failed, room) => (failed, room)
    | none => ([], room)
  let room := (room.close id).evict failed.reverse now
  { room with registry := room.registry.release id }

end Room

end ChatHub
