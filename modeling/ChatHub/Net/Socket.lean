import ChatHub.Net.Address
/-!
# Sockets on the hub's host

What binding a listener and connecting to a server come to on a host `h`.

A listener may be bound to the IPv4 wildcard, to an address the host owns, and to the IPv6
addresses that reach IPv4: the wildcard `::`, which listens on IPv4 as well, and the addresses
mapped from IPv4. A stream socket never takes an IPv6 multicast address, and a link-local one
needs the zone of an interface of the host; any other address the host does not own is not
available. Two listeners clash when they ask for the same port and their addresses overlap: the
same address, or a wildcard on a side that covers the other. Port 0 asks the system for a free
port and never clashes. An address text that resolves to several addresses is bound to the first
that can be bound; when none can, the last failure is reported.

A connection reaches the first address a server listens on; when there is none, it is refused.

`Host.isolated` is a host with the loopback interface alone: `localhost` in its hosts table, no
name server that answers, every IPv4 address and no IPv6 address of its own, and no server.
-/
namespace ChatHub.Net

/-- Why a listener cannot be bound. -/
inductive BindError where
  /-- The address text resolves to no socket address. -/
  | address (e : AddressError)
  /-- The address text resolves to nothing at all. -/
  | noAddress
  /-- The address cannot be taken by a stream socket, or lacks the zone it needs. -/
  | invalidArgument
  /-- The zone names no interface of the host. -/
  | noDevice
  /-- The host has no such address. -/
  | notAvailable
  /-- Another listener holds the port on an overlapping address. -/
  | inUse
  deriving DecidableEq, Repr

/-- The sentence a bind error is reported by. -/
def BindError.text : BindError → String
  | .address e => e.text
  | .noAddress => "could not resolve to any address"
  | .invalidArgument => "Invalid argument (os error 22)"
  | .noDevice => "No such device (os error 19)"
  | .notAvailable => "Cannot assign requested address (os error 99)"
  | .inUse => "Address already in use (os error 98)"

/-- The reason the system gives for a refused connection. -/
def connectionRefused : String := "Connection refused (os error 111)"

/-- Whether an IPv6 address is the wildcard `::`. -/
def isWildcard6 (gs : List Nat) : Bool :=
  gs.all (· = 0)

/-- The IPv4 address of an IPv6 address mapped from IPv4. -/
def mapped4? (gs : List Nat) : Option Nat :=
  if gs.take 6 = [0, 0, 0, 0, 0, 0xFFFF] then some (gs.getD 6 0 * 65536 + gs.getD 7 0) else none

/-- Whether an IPv6 address is a multicast address. -/
def isMulticast6 (gs : List Nat) : Bool :=
  gs.headD 0 / 256 = 0xFF

/-- Whether an IPv6 address is a link-local unicast address. -/
def isLinkLocal6 (gs : List Nat) : Bool :=
  gs.headD 0 / 64 = 0xFE80 / 64

/-- Why a listener cannot be bound to an address on the host `h`, whatever else is bound: the
IPv4 wildcard and the host's own IPv4 addresses are taken; an IPv6 multicast address is refused,
the wildcard and mapped addresses are taken, a link-local address needs a zone that names an
interface; and any other address must be the host's. -/
def SocketAddress.unbindable? (h : Host) (a : SocketAddress) : Option BindError :=
  match a.ip with
  | .v4 bits => if bits = 0 || h.owns a.ip then none else some .notAvailable
  | .v6 gs =>
    if isMulticast6 gs then some .invalidArgument
    else if isWildcard6 gs || (mapped4? gs).isSome then none
    else if isLinkLocal6 gs && a.zone = 0 then some .invalidArgument
    else if isLinkLocal6 gs && !h.interfaces.any (·.2 = a.zone) then some .noDevice
    else if h.owns a.ip then none
    else some .notAvailable

/-- The IPv4 address a listener on an address takes: the address itself, the one an IPv6 address
is mapped from, and the IPv4 wildcard 0 for the IPv6 wildcard. -/
def IpAddr.ipv4View : IpAddr → Option Nat
  | .v4 a => some a
  | .v6 gs => if isWildcard6 gs then some 0 else mapped4? gs

/-- Whether an address is the IPv6 wildcard, which listens on IPv4 as well. -/
def IpAddr.isDualWildcard : IpAddr → Bool
  | .v4 _ => false
  | .v6 gs => isWildcard6 gs

/-- Whether listeners on two addresses overlap on a common port: the IPv6 wildcard overlaps
everything, two addresses that take IPv4 overlap when they are equal or one is the IPv4 wildcard,
and other IPv6 addresses overlap only themselves. -/
def IpAddr.overlaps (a b : IpAddr) : Bool :=
  a.isDualWildcard || b.isDualWildcard ||
    match a.ipv4View, b.ipv4View with
    | some x, some y => x = y || x = 0 || y = 0
    | _, _ => a = b

/-- Whether a new listener clashes with one already bound. -/
def SocketAddress.clashes (taken a : SocketAddress) : Bool :=
  a.port != 0 && a.port == taken.port && a.ip.overlaps taken.ip

/-- Binds one socket address on the host `h` next to the listeners already bound. -/
def bindOne (h : Host) (taken : List SocketAddress) (a : SocketAddress) :
    Except BindError SocketAddress :=
  match a.unbindable? h with
  | some e => .error e
  | none => if taken.any (·.clashes a) then .error .inUse else .ok a

/-- Tries the addresses in order: the first that binds, or the last failure. -/
def bindFirst (h : Host) (taken : List SocketAddress) : List SocketAddress → BindError →
    Except BindError SocketAddress
  | [], last => .error last
  | a :: rest, _ =>
    match bindOne h taken a with
    | .ok b => .ok b
    | .error e => bindFirst h taken rest e

/-- Binds a listener on the host `h` to an address text next to the listeners already bound,
and gives the address it listens on. -/
def bind (h : Host) (taken : List SocketAddress) (text : String) : Except BindError SocketAddress :=
  match resolve h text with
  | .error e => .error (.address e)
  | .ok addrs => bindFirst h taken addrs .noAddress

/-- Connects from the host `h` to an address text: the first of its addresses a server listens
on, or why there is none: the text does not resolve to any address, or every address refuses
the connection. -/
def connect (h : Host) (text : String) : Except String SocketAddress :=
  match resolve h text with
  | .error e => .error e.text
  | .ok [] => .error BindError.noAddress.text
  | .ok addrs =>
    match addrs.find? h.listens with
    | some a => .ok a
    | none => .error connectionRefused

/-- A host with the loopback interface alone: `localhost` as the IPv4 loopback address in its
hosts table, no name server that answers, every IPv4 address and no IPv6 address of its own,
and no server listening. -/
def Host.isolated : Host where
  interfaces := [("lo", 1)]
  hosts := [("localhost", [.v4 0x7F000001])]
  nameServers _ := none
  owns ip := match ip with
    | .v4 _ => true
    | .v6 _ => false
  listens _ := false

end ChatHub.Net
