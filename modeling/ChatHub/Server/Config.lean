import ChatHub.Net.Socket
/-!
The server's settings and the reports its command line and the client's end with.

The server listens on a console address and a WebSocket address, given as the first two
arguments; the defaults are ports 8080 and 8081 on the loopback address. A run that cannot
start ends with a report: the console listener's failure is a transport error that carries
the system's reason as its cause, the WebSocket listener's failure is the system's reason
alone.
-/
namespace ChatHub.Server

/-- Where the server listens, and how many connections it serves at once. -/
structure Config where
  consoleAddr : String := "127.0.0.1:8080"
  webAddr : String := "127.0.0.1:8081"
  maxConnections : Nat := 100
  deriving DecidableEq, Repr

/-- The settings named by the command-line arguments: the first is the console address, the
second the WebSocket address, and further ones are not read. -/
def Config.ofArgs (args : List String) : Config :=
  match args with
  | [] => {}
  | [c] => { consoleAddr := c }
  | c :: w :: _ => { consoleAddr := c, webAddr := w }

/-- Why a command line stopped: a sentence and the chain of causes under it. -/
structure Report where
  headline : String
  causes : List String := []
  deriving DecidableEq, Repr

/-- The text a command line prints on standard error when it stops. -/
def Report.render (r : Report) : String :=
  let head := "Error: " ++ r.headline ++ "\n"
  match r.causes with
  | [] => head
  | [c] => head ++ "\nCaused by:\n    " ++ c ++ "\n"
  | cs =>
    let numbered := (List.range cs.length).zip cs |>.map fun (i, c) =>
      "    " ++ String.ofList (Text.Decimal.write i) ++ ": " ++ c ++ "\n"
    head ++ "\nCaused by:\n" ++ String.join numbered

/-- A transport error: the reason is shown after a prefix and again as the cause. -/
def Report.transport (reason : String) : Report :=
  { headline := "IO error: " ++ reason, causes := [reason] }

/-- How starting the server on the host `h` ends, before it would serve: the console listener is
bound first, then the WebSocket listener next to it. -/
def start (h : Net.Host) (c : Config) : Except Report Unit :=
  match Net.bind h [] c.consoleAddr with
  | .error e => .error (Report.transport e.text)
  | .ok console =>
    match Net.bind h [console] c.webAddr with
    | .error e => .error { headline := e.text }
    | .ok _ => .ok ()

/-- The usage line of the client. -/
def clientUsage : String := "usage: chat-client <nickname> [server_addr]"

/-- How the client's command line on the host `h` starts: it needs a nickname, and the server
address, by default the console port on the loopback address, must be reachable; the address it
reaches, or the report it ends with. -/
def clientStart (h : Net.Host) (args : List String) : Except Report Net.SocketAddress :=
  match args with
  | [] => .error { headline := clientUsage }
  | _ :: rest =>
    match Net.connect h (rest.headD "127.0.0.1:8080") with
    | .ok a => .ok a
    | .error reason => .error (Report.transport reason)

end ChatHub.Server
