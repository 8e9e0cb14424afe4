/-!
The five commands of the chat protocol and the two kinds of terminal a client can speak from.

A command is named in upper case and matched exactly; the wire form of both vocabularies is
the position in its list, which is what `index` and `ofIndex?` give. The main statements say
that reading a name or an index back gives the value that wrote it.
-/
namespace ChatHub

/-- The commands a message can carry. -/
inductive Command where
  | system
  | login
  | logout
  | chat
  | flower
  deriving DecidableEq, Repr, Inhabited

namespace Command

/-- Every command, in wire order. -/
def all : List Command := [system, login, logout, chat, flower]

/-- The name of a command as it is written in a line and shown to a user. -/
def name : Command → String
  | system => "SYSTEM"
  | login => "LOGIN"
  | logout => "LOGOUT"
  | chat => "CHAT"
  | flower => "FLOWER"

/-- The command with exactly this name; case counts and nothing is trimmed. -/
def ofName? (s : String) : Option Command :=
  all.find? fun c => c.name == s

/-- The position of a command in `all`, which is its number on the wire. -/
def index : Command → Nat
  | system => 0
  | login => 1
  | logout => 2
  | chat => 3
  | flower => 4

/-- The command at a wire position, if the position is one of the five. -/
def ofIndex? : Nat → Option Command
  | 0 => some system
  | 1 => some login
  | 2 => some logout
  | 3 => some chat
  | 4 => some flower
  | _ => none

theorem ofName?_name (c : Command) : ofName? c.name = some c := by
  cases c <;> rfl

theorem ofIndex?_index (c : Command) : ofIndex? c.index = some c := by
  cases c <;> rfl

theorem index_lt (c : Command) : c.index < 5 := by
  cases c <;> decide

end Command

/-- The kind of terminal a session speaks from: a console keeps the binary record, a web page
reads text lines. -/
inductive Terminal where
  | console
  | webSocket
  deriving DecidableEq, Repr, Inhabited

namespace Terminal

/-- The name of a terminal as it is written in a line. -/
def name : Terminal → String
  | console => "Console"
  | webSocket => "WebSocket"

/-- The terminal with exactly this name. -/
def ofName? (s : String) : Option Terminal :=
  if s == "Console" then some console
  else if s == "WebSocket" then some webSocket
  else none

/-- The number of a terminal on the wire. -/
def index : Terminal → Nat
  | console => 0
  | webSocket => 1

/-- The terminal at a wire position. -/
def ofIndex? : Nat → Option Terminal
  | 0 => some console
  | 1 => some webSocket
  | _ => none

theorem ofName?_name (t : Terminal) : ofName? t.name = some t := by
  cases t <;> rfl

theorem ofIndex?_index (t : Terminal) : ofIndex? t.index = some t := by
  cases t <;> rfl

end Terminal

end ChatHub
