import ChatHub.Digest.Sha1
import ChatHub.Text.Base64
import ChatHub.Web.Target
/-!
# The WebSocket opening handshake, server side

The server reads the client's request head and, if it asks for an upgrade to the WebSocket
protocol, answers with `101 Switching Protocols` and the accept key: the base64 of the SHA-1 of
the client's key followed by the protocol's fixed GUID.

The checks come in this order: the head must read; the method must be `GET`, the version at
least 1.1, and the target a URI; nothing may follow the head in the bytes read so far; then the
`Connection` header must list `upgrade`, `Upgrade` must be `websocket`,
`Sec-WebSocket-Version` must be `13`, and a `Sec-WebSocket-Key` must be present. Header names
are matched without regard to case, and only the first header of a name counts.

The server also refuses a client that sends its head in too many small pieces or too many
bytes, and a client that closes before the head is complete.
-/
namespace ChatHub.Web

/-- Why the server refuses an upgrade. -/
inductive HandshakeError where
  | malformed (e : HeadError)
  | wrongMethod
  | wrongVersion
  | badTarget (e : TargetError)
  | junkAfterRequest
  | noConnectionUpgrade
  | noUpgradeWebSocket
  | noVersion13
  | noKey
  | unfinished
  | attack
  deriving DecidableEq, Repr

/-- The sentence a refused upgrade is reported by. -/
def HandshakeError.text : HandshakeError → String
  | .malformed .tooManyHeaders => "Space limit exceeded: Too many headers"
  | .malformed e => "WebSocket protocol error: httparse error: " ++ e.text
  | .wrongMethod => "WebSocket protocol error: Unsupported HTTP method used - only GET is allowed"
  | .wrongVersion => "WebSocket protocol error: HTTP version must be 1.1 or higher"
  | .badTarget e => "HTTP format error: " ++ e.text
  | .junkAfterRequest => "WebSocket protocol error: Junk after client request"
  | .noConnectionUpgrade => "WebSocket protocol error: No \"Connection: upgrade\" header"
  | .noUpgradeWebSocket => "WebSocket protocol error: No \"Upgrade: websocket\" header"
  | .noVersion13 => "WebSocket protocol error: No \"Sec-WebSocket-Version: 13\" header"
  | .noKey => "WebSocket protocol error: No \"Sec-WebSocket-Key\" header"
  | .unfinished => "WebSocket protocol error: Handshake not finished"
  | .attack => "Attack attempt detected"

/-- The value of the first header with a name. -/
def RequestHead.header? (head : RequestHead) (name : String) : Option (List UInt8) :=
  (head.headers.find? fun (n, _) => sameIgnoringCase n (asciiBytes name)).map (·.2)

/-- A header value as text: only tabs and visible ASCII, otherwise none. -/
def visible? (v : List UInt8) : Option (List UInt8) :=
  if v.all fun b => b = 0x09 ∨ (0x20 ≤ b ∧ b ≤ 0x7E) then some v else none

/-- The parts of a value between spaces and commas. -/
def valueParts (v : List UInt8) : List (List UInt8) :=
  v.splitOn 0x20 |>.flatMap (·.splitOn 0x2C)

/-- The GUID appended to every key. -/
def acceptGuid : String := "258EAFA5-E914-47DA-95CA-C5AB0DC85B11"

/-- The accept key for a client's key. -/
def acceptKey (key : List UInt8) : String :=
  String.ofList (Text.base64 (Digest.sha1 (key ++ asciiBytes acceptGuid)))

/-- The response that completes an upgrade. -/
def upgradeResponse (key : List UInt8) : List UInt8 :=
  asciiBytes ("HTTP/1.1 101 Switching Protocols\r\nconnection: Upgrade\r\nupgrade: websocket\r\n" ++
    "sec-websocket-accept: " ++ acceptKey key ++ "\r\n\r\n")

/-- The answer to a complete request head and the bytes read after it. -/
def answer (head : RequestHead) (after : List UInt8) : Except HandshakeError (List UInt8) :=
  if head.method != asciiBytes "GET" then .error .wrongMethod
  else if head.minorVersion < 1 then .error .wrongVersion
  else if let .error e := checkTarget head.target then .error (.badTarget e)
  else if !after.isEmpty then .error .junkAfterRequest
  else
    let connection := (head.header? "Connection").bind visible?
    if !(connection.map fun v => (valueParts v).any (sameIgnoringCase · (asciiBytes "Upgrade"))).getD false then
      .error .noConnectionUpgrade
    else
      let upgrade := (head.header? "Upgrade").bind visible?
      if !(upgrade.map (sameIgnoringCase · (asciiBytes "websocket"))).getD false then
        .error .noUpgradeWebSocket
      else if head.header? "Sec-WebSocket-Version" != some (asciiBytes "13") then
        .error .noVersion13
      else
        match head.header? "Sec-WebSocket-Key" with
        | some key => .ok (upgradeResponse key)
        | none => .error .noKey

/-- The server's side of a handshake in progress: the bytes read so far, and how many reads
and bytes it took. -/
structure Handshake where
  received : List UInt8 := []
  reads : Nat := 0
  deriving DecidableEq, Repr

/-- Where a handshake stands after a read. -/
inductive Handshake.Progress where
  /-- The head is not complete yet. -/
  | waiting (h : Handshake)
  /-- The upgrade is refused. -/
  | refused (e : HandshakeError)
  /-- The upgrade is accepted with this response. -/
  | accepted (response : List UInt8)
  deriving Repr

/-- Whether the reads so far look like a client feeding the head in slivers: more than 64 KiB,
more than 512 reads, or, past 64 reads, fewer than 128 bytes a read. -/
def Handshake.flooded (h : Handshake) : Bool :=
  65536 < h.received.length || 512 < h.reads || (64 < h.reads && h.received.length < 128 * h.reads)

/-- Reads one packet of bytes and tries the head again. -/
def Handshake.receive (h : Handshake) (packet : List UInt8) : Handshake.Progress :=
  let h : Handshake := { received := h.received ++ packet, reads := h.reads + 1 }
  if h.flooded then .refused .attack
  else
    match readHead h.received with
    | .more => .waiting h
    | .fail e => .refused (.malformed e)
    | .ok head after =>
      match answer head after with
      | .ok response => .accepted response
      | .error e => .refused e

end ChatHub.Web
