import ChatHub.Stream.Reader
import ChatHub.Stream.Writer
/-!
A connection exercised from both ends over an in-memory pipe. The server sends its replies as
frames, the client reads as many items as were sent, writes its own requests and shuts its
writer down, and the server then reads until the connection ends.
-/
namespace ChatHub.Stream

/-- The address an in-memory pipe reports for its other end. -/
def pipePeerAddr : String := "127.0.0.1:40000"

/-- What each end saw. -/
structure Exchange where
  serverSent : List (Except Fault Unit)
  clientReceived : List Inbound
  clientWrites : List (Except Fault Unit)
  serverReceived : List Inbound
  serverEnd : Fault
  peerAddr : String := pipePeerAddr

/-- Runs the exchange of `replies` from the server and `writes` from the client. -/
def exchange (replies : List Message) (writes : List Outgoing) : Exchange :=
  let (sent, toClient) := writeAll (replies.map .message)
  let delivered := (sent.filter fun r => r matches .ok _).length
  let (clientItems, _, _) := (Reader.mk toClient .eof {}).drain
  let (written, toServer) := writeAll writes
  let (serverItems, serverEnd, _) := (Reader.mk toServer .eof {}).drain
  { serverSent := sent
    clientReceived := (clientItems.take delivered).map (·.1)
    clientWrites := written
    serverReceived := serverItems.map (·.1)
    serverEnd }

end ChatHub.Stream
