import ChatHub.Server.Config
/-!
# The server's command line

The arguments are the console address and the WebSocket address, both optional. Settings the
server cannot start with end the run with their report on standard error and exit code 1. The
run is on an isolated host (`Net.Host.isolated`).
-/

/-- Checks the command-line settings as the server does before it serves; a failure prints its
report. -/
def main (args : List String) : IO UInt32 := do
  match ChatHub.Server.start ChatHub.Net.Host.isolated (ChatHub.Server.Config.ofArgs args) with
  | .ok () => return 0
  | .error r =>
    IO.eprint r.render
    return 1
