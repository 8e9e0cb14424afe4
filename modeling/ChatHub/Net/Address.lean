import ChatHub.Net.Name
/-!
Socket addresses written as `host:port`, and the addresses they resolve to.

Text in the strict form of a socket address stands for itself: a dotted IPv4 address of four
decimal bytes without leading zeros, or an IPv6 address in brackets with an optional zone after
`%`, a decimal number below 2^32, then a colon and a decimal port. Any other text is split at
its last colon: with no colon there is no port at all, and the port must be a 16-bit number in
decimal, where a leading plus is allowed. The host is then looked up: as a number in one of its classic forms,
else as a name (see `ChatHub.Net.Name`). A host holding a NUL character cannot be passed to a
lookup at all.

What the lookup learns from the machine it runs on, its interfaces, hosts table and name servers,
is a parameter (`Host`), as are the addresses it owns and the servers that listen on it.
-/
namespace ChatHub.Net

/-- Why an address text resolves to no socket address. -/
inductive AddressError where
  /-- There is no colon to separate a host from a port. -/
  | noPort
  /-- The text after the last colon is not a 16-bit number. -/
  | badPort
  /-- The host holds a NUL character. -/
  | nulInHost
  /-- The host is no number, no name of the hosts table and no domain name. -/
  | unknownHost
  /-- The host is a domain name, and the name servers give no answer for it. -/
  | noAnswer
  deriving DecidableEq, Repr

/-- The sentence an address error is reported by. -/
def AddressError.text : AddressError → String
  | .noPort => "invalid socket address"
  | .badPort => "invalid port value"
  | .nulInHost => "file name contained an unexpected NUL byte"
  | .unknownHost => "failed to lookup address information: Name or service not known"
  | .noAnswer => "failed to lookup address information: Temporary failure in name resolution"

/-- An IP address with a port, and for IPv6 the number of a zone, 0 for none. -/
structure SocketAddress where
  ip : IpAddr
  port : Nat
  zone : Nat := 0
  deriving DecidableEq, Repr

/-- What the network code learns from the machine it runs on. -/
structure Host where
  /-- The network interfaces, by name, with their numbers. -/
  interfaces : List (String × Nat)
  /-- The hosts table: names in lower case, with their addresses. -/
  hosts : List (String × List IpAddr)
  /-- What the name servers answer for a domain name: its addresses, or none when no answer
  comes. -/
  nameServers : List Char → Option (List IpAddr)
  /-- Whether an address is one of the host's own, so that a listener can take it. -/
  owns : IpAddr → Bool
  /-- Whether a server listens on a socket address. -/
  listens : SocketAddress → Bool

/-- The text before and after the last occurrence of a character. -/
def splitLast (c : Char) (cs : List Char) : Option (List Char × List Char) :=
  let rev := cs.reverse
  match rev.span (· ≠ c) with
  | (after, _ :: before) => some (before.reverse, after.reverse)
  | (_, []) => none

/-- A port in the strict form: one or more decimal digits, leading zeros allowed, below 65536. -/
def strictPort? (cs : List Char) : Option Nat :=
  if cs.all Char.isDigit then Text.Decimal.read? 65536 cs else none

/-- Reads a socket address in the strict form. -/
def SocketAddress.readStrict? (cs : List Char) : Option SocketAddress :=
  match cs with
  | '[' :: rest =>
    match rest.span (· ≠ ']') with
    | (inner, ']' :: ':' :: port) =>
      let (addr, zone) := inner.span (· ≠ '%')
      let zone? := match zone with
        | [] => some 0
        | _ :: digits => if digits.all Char.isDigit then Text.Decimal.read? 4294967296 digits else none
      match ipv6? addr, zone?, strictPort? port with
      | some gs, some z, some p => some { ip := .v6 gs, port := p, zone := z }
      | _, _, _ => none
    | _ => none
  | _ =>
    match dottedPrefix? cs with
    | some (a, ':' :: port) => (strictPort? port).map fun p => { ip := .v4 a, port := p }
    | _ => none

/-- The addresses a host name or number stands for on the machine `h`, each with the number of
its zone. -/
def lookupHost (h : Host) (host : List Char) : Except AddressError (List (IpAddr × Nat)) :=
  match NumericHost.read h.interfaces host with
  | .address ip zone => .ok [(ip, zone)]
  | .badZone => .error .unknownHost
  | .notNumeric =>
    match knownHost? h.hosts host with
    | some ips => .ok (ips.map fun ip => (ip, 0))
    | none =>
      if isDomainName host then
        match h.nameServers host with
        | some ips => .ok (ips.map fun ip => (ip, 0))
        | none => .error .noAnswer
      else .error .unknownHost

/-- The socket addresses an address text resolves to on the machine `h`, in the order they are
tried. -/
def resolve (h : Host) (text : String) : Except AddressError (List SocketAddress) :=
  let cs := text.toList
  match SocketAddress.readStrict? cs with
  | some a => .ok [a]
  | none =>
    match splitLast ':' cs with
    | none => .error .noPort
    | some (host, port) =>
      match Text.Decimal.read? 65536 port with
      | none => .error .badPort
      | some p =>
        if host.contains (Char.ofNat 0) then .error .nulInHost
        else (lookupHost h host).map fun ips => ips.map fun (ip, zone) => { ip, port := p, zone }

end ChatHub.Net
