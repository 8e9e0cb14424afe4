import ChatHub.Command
/-!
The message record that every part of the hub passes around, and the ways the hub builds one.

Times are milliseconds since the epoch in a 64-bit word and the online count is a 32-bit
word, as on the wire. Only a SYSTEM message uses the count, only LOGIN and FLOWER name a
terminal, and the receiver is carried but never set by the hub.
-/
namespace ChatHub

/-- The name the hub signs its own notices with. -/
def hubSender : String := "admin"

/-- The name a recipient sees in place of its own nickname. -/
def selfSender : String := "you"

/-- One protocol message. -/
structure Message where
  command : Command
  sendingTime : UInt64 := 0
  onlineCount : UInt32 := 0
  sender : String := ""
  receiver : String := ""
  content : String := ""
  terminal : Option Terminal := none
  deriving DecidableEq, Repr, Inhabited

namespace Message

/-- A message of this command with every other field empty. -/
def empty (command : Command) : Message := { command }

/-- A LOGIN under a nickname from a terminal. -/
def login (nickname : String) (terminal : Terminal) (time : UInt64) : Message :=
  { command := .login, sender := nickname, terminal := some terminal, sendingTime := time }

/-- A LOGOUT of a nickname. -/
def logout (nickname : String) (time : UInt64) : Message :=
  { command := .logout, sender := nickname, sendingTime := time }

/-- A CHAT line from a sender. -/
def chat (sender content : String) (time : UInt64) : Message :=
  { command := .chat, sender, content, sendingTime := time }

/-- A FLOWER from a sender, naming the terminal it came from. -/
def flower (sender : String) (terminal : Terminal) (time : UInt64) : Message :=
  { command := .flower, sender, terminal := some terminal, sendingTime := time }

/-- A notice from the hub, with the number of sessions online. -/
def system (online : UInt32) (content : String) (time : UInt64) : Message :=
  { command := .system, sender := hubSender, onlineCount := online, content,
    sendingTime := time }

end Message

end ChatHub
