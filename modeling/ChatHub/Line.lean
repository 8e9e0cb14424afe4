import ChatHub.Message
import ChatHub.Text.Blank
import ChatHub.Text.Decimal
/-!
The text line form of a message, for web pages and for people typing at a console:

    [CMD][TIME][SENDER][TERMINAL] - CONTENT

The command and time groups are always written. A LOGIN or CHAT adds the sender, a FLOWER the
sender and the terminal, a SYSTEM notice the online count, a LOGOUT nothing. The content
follows a space, a dash and a space, and only when it is not blank. Carriage returns and line
feeds inside a field are written as spaces, so a line never breaks.

Reading is more lenient than writing: any run of bracket groups from the start is accepted as
long as the first one names a command, the blanks around the dash may be any Unicode spaces,
a time that is not a number reads as zero, and a sender is cut to nine characters.
-/
namespace ChatHub.Line

open Text

/-- The longest sender a line can carry, counted in characters. -/
def nicknameLimit : Nat := 9

/-- A field value as it may stand inside a line: carriage returns and line feeds become
spaces. -/
def flatten (cs : List Char) : List Char :=
  cs.map fun c => if c = '\r' ∨ c = '\n' then ' ' else c

/-- One bracket group holding a flattened value. -/
def group (cs : List Char) : List Char :=
  '[' :: flatten cs ++ [']']

/-- The groups that follow the time, which depend on the command. -/
def fieldGroups (m : Message) : List Char :=
  match m.command with
  | .login | .chat => group m.sender.toList
  | .flower => group m.sender.toList ++ group ((m.terminal.map Terminal.name).getD "").toList
  | .system => group (Decimal.write m.onlineCount.toNat)
  | .logout => []

/-- The content part: nothing for blank content, otherwise a space, a dash, a space and the
flattened content. -/
def contentPart (content : List Char) : List Char :=
  if isBlank content then [] else ' ' :: '-' :: ' ' :: flatten content

/-- The characters of a message's line. -/
def encodeChars (m : Message) : List Char :=
  group m.command.name.toList ++ group (Decimal.write m.sendingTime.toNat) ++ fieldGroups m ++
    contentPart m.content.toList

/-- The line that carries a message. -/
def encode (m : Message) : String :=
  String.ofList (encodeChars m)

/-- The text of a group up to the first closing bracket, and what follows that bracket; none
when the bracket never comes. -/
def closeGroup : List Char → Option (List Char × List Char)
  | [] => none
  | c :: rest =>
    if c = ']' then some ([], rest)
    else (closeGroup rest).map fun (g, r) => (c :: g, r)

theorem closeGroup_length {cs g r : List Char} (h : closeGroup cs = some (g, r)) :
    r.length < cs.length := by
  induction cs generalizing g r with
  | nil => simp [closeGroup] at h
  | cons c rest ih =>
    simp only [closeGroup] at h
    split at h
    · simp only [Option.some.injEq, Prod.mk.injEq] at h
      obtain ⟨-, rfl⟩ := h
      simp
    · obtain ⟨⟨g', r'⟩, hgr, he⟩ := Option.map_eq_some_iff.1 h
      simp only [Prod.mk.injEq] at he
      obtain ⟨-, rfl⟩ := he
      have := ih hgr
      simp only [List.length_cons]
      omega

/-- The command a line starts with: the text between a leading '[' and the first ']' must be
one of the five names exactly. -/
def leadingCommand (cs : List Char) : Option Command :=
  match cs with
  | '[' :: rest =>
    match closeGroup rest with
    | some (name, _) => Command.ofName? (String.ofList name)
    | none => none
  | _ => none

/-- Whether a line starts with a bracketed command name. -/
def isProtocol (line : String) : Bool :=
  (leadingCommand line.toList).isSome

/-- Splits the bracket groups off the front of a line and returns them with the rest; none
when a group is left open. -/
def splitGroups : List Char → Option (List (List Char) × List Char)
  | '[' :: rest =>
    match h : closeGroup rest with
    | some (g, after) =>
      have : after.length < rest.length + 1 := by
        have := closeGroup_length h
        omega
      (splitGroups after).map fun (gs, tail) => (g :: gs, tail)
    | none => none
  | cs => some ([], cs)
termination_by cs => cs.length

/-- What may follow the groups: nothing, or a space, a dash, a space and the content. The
result is the content, or none when the rest has another shape. -/
def contentOf : List Char → Option (List Char)
  | [] => some []
  | a :: d :: b :: s => if isSpace a ∧ d = '-' ∧ isSpace b then some s else none
  | _ => none

/-- A sender as a line carries it: its first nine characters. -/
def nickname (cs : List Char) : String :=
  String.ofList (cs.take nicknameLimit)

/-- The message a line carries, when the line has the shape of one. -/
def decodeChars (cs : List Char) : Option Message := do
  let command ← leadingCommand cs
  let (groups, rest) ← splitGroups cs
  let content ← contentOf rest
  let field := fun i => groups.getD i []
  let base : Message :=
    { command
      sendingTime := UInt64.ofNat ((Decimal.read? UInt64.size (field 1)).getD 0)
      content := String.ofList content }
  match command with
  | .login | .logout | .flower =>
    some { base with
      sender := nickname (field 2)
      terminal := Terminal.ofName? (String.ofList (field 3)) }
  | .chat => some { base with sender := nickname (field 2) }
  | .system =>
    some { base with
      sender := hubSender
      onlineCount := UInt32.ofNat ((Decimal.read? UInt32.size (field 2)).getD 0) }

/-- The message a line carries, or none when the line is not one of the protocol. -/
def decode (line : String) : Option Message :=
  decodeChars line.toList

end ChatHub.Line
