import ChatHub.Net.Host
/-!
# Host names

A host that is no number is a name. A name of the host's hosts table stands for the table's
addresses, whatever the case of its letters. Any other name that is a well-formed domain name
goes to the host's name servers, and a name that is not one fails as unknown.

A domain name is written as labels separated by dots, with an optional final dot; a backslash
takes the next character as it is, or three decimal digits as the byte they spell, and never
ends the name. Its text is visible ASCII, each label is one to 63 bytes of letters, digits, `-` and `_`, the first label
does not start with `-`, and the labels, each with a length byte, and a final zero byte take at
most 255 bytes. The root `.` is a domain name; the empty name is none.
-/
namespace ChatHub.Net

/-- The longest label of a domain name, in bytes. -/
def maxLabel : Nat := 63

/-- The longest domain name in its wire form, in bytes. -/
def maxWireName : Nat := 255

/-- The addresses a hosts table, its names in lower case, gives a name, comparing ASCII letters
without case. -/
def knownHost? (hosts : List (String × List IpAddr)) (name : List Char) : Option (List IpAddr) :=
  let key := String.ofList (name.map Char.toLower)
  (hosts.find? (·.1 = key)).map (·.2)

/-- The labels of a domain name written as text, with escapes resolved. `label` holds the label
being read, last character first, and `done` the labels read before it, last label first. A
label left empty before a dot, or a dot right after another, gives none; so does a backslash
at the end, or an escape of fewer than three digits or of a number above 255. -/
def readLabels : List Char → List Char → List (List Char) → Option (List (List Char))
  | [], label, done =>
    some (if label.isEmpty then done.reverse else (label.reverse :: done).reverse)
  | '\\' :: rest, label, done =>
    match rest with
    | [] => none
    | d :: more =>
      if d.isDigit then
        match more with
        | e :: f :: tail =>
          match Text.Decimal.read? 256 [d, e, f] with
          | some v => readLabels tail (Char.ofNat v :: label) done
          | none => none
        | _ => none
      else readLabels more (d :: label) done
  | '.' :: rest, label, done =>
    if rest.isEmpty then
      some (if label.isEmpty then done.reverse else (label.reverse :: done).reverse)
    else if label.isEmpty || rest.head? = some '.' then none
    else readLabels rest [] (label.reverse :: done)
  | c :: rest, label, done => readLabels rest (c :: label) done

/-- Whether a character may stand in a label of a host name. -/
def isLabelChar (c : Char) : Bool :=
  c.isAlphanum || c = '-' || c = '_'

/-- The bytes a name takes on the wire: a length byte before each label and a final zero. -/
def wireLength (labels : List (List Char)) : Nat :=
  labels.foldl (fun n l => n + l.length + 1) 1

/-- Whether a name is a domain name that may be asked of a name server. -/
def isDomainName (name : List Char) : Bool :=
  !name.isEmpty && name.all (fun c => '!' ≤ c && c ≤ '~') &&
    match readLabels name [] [] with
    | some labels =>
      labels.all (fun l => l.length ≤ maxLabel && l.all isLabelChar) &&
        wireLength labels ≤ maxWireName &&
        labels.head?.bind List.head? != some '-'
    | none => false

end ChatHub.Net
