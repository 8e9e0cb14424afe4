import ChatHub.Message
import ChatHub.Text.Blank
import ChatHub.Text.Decimal
/-!
The console client's side of the protocol: what a typed line asks for, and how a received
message is shown.

Times are shown as `HH:MM:SS` of the day in UTC. A time is read as a signed count of
milliseconds (a word at or above 2^63 counts back from the epoch), and a count whose day lies
outside the calendar the client can show, from 2 January of year -262143 to 31 December of
year 262142, is shown as `--:--:--`.
-/
namespace ChatHub.Client

/-- What a typed line asks the client to do. -/
inductive Input where
  | chat (text : String)
  | flower
  | quit
  deriving DecidableEq, Repr

/-- Reads a typed line: blank lines ask for nothing, `/flower` and `/quit` are commands, and
anything else is said in the room, without the spaces around it. -/
def Input.parse? (line : String) : Option Input :=
  let text := Text.trim line.toList
  if text = [] then none
  else if text = "/flower".toList then some .flower
  else if text = "/quit".toList then some .quit
  else some (.chat (String.ofList text))

/-- A time as a signed count of milliseconds since the epoch. -/
def signedMillis (t : UInt64) : Int :=
  if t.toNat < UInt64.size / 2 then t.toNat else (t.toNat : Int) - UInt64.size

/-- The first millisecond the client can show: 2 January of year -262143, at midnight. -/
def earliestMillis : Int := -8334601228800000

/-- The last millisecond the client can show: 31 December of year 262142, 23:59:59.999. -/
def latestMillis : Int := 8210266876799999

/-- Two digits of a number below one hundred. -/
def twoDigits (n : Nat) : List Char :=
  [Char.ofNat (48 + n / 10), Char.ofNat (48 + n % 10)]

/-- The time of day of a millisecond count, as `HH:MM:SS`, or `--:--:--` outside the calendar. -/
def clock (t : UInt64) : String :=
  let ms := signedMillis t
  if ms < earliestMillis ∨ latestMillis < ms then "--:--:--"
  else
    let s := (ms / 1000 % 86400).toNat
    String.ofList (twoDigits (s / 3600) ++ ':' :: twoDigits (s / 60 % 60) ++ ':' :: twoDigits (s % 60))

/-- The line the client prints for a received message. -/
def render (m : Message) : String :=
  let time := clock m.sendingTime
  match m.command with
  | .system =>
    time ++ " [system] " ++ m.content ++ " (online: " ++
      String.ofList (Text.Decimal.write m.onlineCount.toNat) ++ ")"
  | .chat => time ++ " " ++ m.sender ++ ": " ++ m.content
  | .flower =>
    if m.content.isEmpty then time ++ " * " ++ m.sender ++ " sent a shower of flowers"
    else time ++ " * " ++ m.content
  | .login | .logout => time ++ " " ++ m.sender ++ " " ++ m.command.name

end ChatHub.Client
