import LayerCull.CommandLine.Usage
import LayerCull.Http.Message
import LayerCull.Program
import Std.Async.DNS
import Std.Async.TCP
import Std.Async.Timer

/-!
This module contains the command. It finds out what the program has to know, carries requests to the
server, and writes the lines of the program to the terminal.
-/

namespace LayerCull.Main

open Std Async

/-! The wire -/

/-- How many bytes are read at once. -/
def portion : Nat := 65536

/-- Reads what has come so far. -/
def arrival (closed : Bool) (seen : ByteArray) : Http.Arrival :=
  Http.Arrival.ofBytes closed seen.toList

/-- Reads from the connection until the answer is there or no more bytes come. -/
partial def receive (socket : TCP.Socket.Client) (seen : IO.Ref ByteArray) : Async Unit := do
  match ← socket.recv? portion.toUInt64 with
  | none => return
  | some bytes =>
    seen.modify (· ++ bytes)
    if portion ≤ bytes.size then
      receive socket seen
    else if let .all _ := arrival false (← seen.get) then
      return
    else
      receive socket seen

/-- Connects to the first address that lets itself be reached. -/
def connect (port : UInt16) : List Net.IPAddr → Async TCP.Socket.Client
  | [] => throw (IO.userError "no address answers")
  | address :: rest => do
    let socket ← TCP.Socket.Client.mk
    try
      socket.connect (match address with
        | .v4 addr => .v4 ⟨addr, port⟩
        | .v6 addr => .v6 ⟨addr, port⟩)
      return socket
    catch _ => connect port rest

/-- The name by which the host is looked up. -/
def hostName : Option Url.Host → String
  | some (.ipv6 groups) => String.ofList (Url.Ipv6.render groups)
  | some host => String.ofList host.render
  | none => ""

def converse (request : Http.Request) (seen : IO.Ref ByteArray) : Async Unit := do
  let port := (request.url.port <|> Url.defaultPort? request.url.scheme).getD 80
  let addresses ← DNS.getAddrInfo (hostName request.url.host) (toString port)
  let socket ← connect port.toUInt16 addresses.toList
  socket.send ⟨request.bytes.toArray⟩
  receive socket seen

/-- Carries a request to the server and waits for the answer, as long as it may take. Only plain
connections are made, and no redirect is followed: an answer that points elsewhere is brought back
as it is. -/
def deliver (request : Http.Request) : IO Http.Delivery := do
  if request.url.scheme != "http".toList then
    return .unanswered false
  let seen ← IO.mkRef ByteArray.empty
  let limit : Time.Millisecond.Offset := .ofNat (1000 * request.timeoutSeconds)
  let ended ← (Async.race
    (try converse request seen; return true catch _ => return true)
    (do sleep limit; return false)).block
  return (arrival ended (← seen.get)).breakOff (!ended)

/-! The surroundings -/

def fileText (path : String) : IO (Except Unreadable String) := do
  try
    match Utf8.decode? (← IO.FS.readBinFile path).toList with
    | some text => return .ok (String.ofList text)
    | none => return .error .notText
  catch
    | .noFileOrDirectory .. => return .error .missing
    | .permissionDenied .. => return .error .forbidden
    | .inappropriateType _ 20 _ => return .error .notDirectory
    | .inappropriateType _ 21 _ => return .error .directory
    | e => return .error (.other (toString e))

/-- What the line makes the program look at: one file, and the variables that it refers to. -/
def look (line : CommandLine) : IO Surroundings := do
  let found ← match line.file with
    | some path => fileText path
    | none => pure (.error .missing)
  let names := match found with
    | .ok text => Reference.names text.toList
    | .error _ => []
  let values ← (Program.filterVariable :: names).filterMapM fun name => do
    return (← IO.getEnv name).map fun value => (name, value)
  return ⟨fun name => values.lookup name, fun _ => found⟩

/-! The terminal -/

def timestamp : IO String := do
  let now := Time.DateTime.ofTimestampWithZone (← Time.Timestamp.now) Time.TimeZone.UTC
  return now.format "uuuu-MM-dd'T'HH:mm:ss.SSSSSS'Z'"

def write : Program.Stream × String → IO Unit
  | (.output, line) => IO.println line
  | (.errors, line) => IO.eprintln line

/-- Writes a note down. The cleanup is timed from the note on its beginning. -/
def announce (logging : Program.Logging) (begun : IO.Ref Nat) (note : Note) : IO Unit := do
  let now ← IO.monoMsNow
  if let .log (.cleanupStarted ..) := note then
    begun.set now
  let clock : Log.Clock := ⟨← timestamp, toString (now - (← begun.get))⟩
  (Program.written? logging clock note).forM write

def run (line : CommandLine) : IO Nat := do
  let surroundings ← look line
  let logging := Program.Logging.choose line surroundings.environment
  let begun ← IO.mkRef (← IO.monoMsNow)
  match ← (Program.run line surroundings).interpret deliver (announce logging begun) with
  | .ok exitCode => return exitCode
  | .error failure => return failure.exitCode

end LayerCull.Main

def main (arguments : List String) : IO UInt32 := do
  match LayerCull.CommandLine.read arguments with
  | .ok line => return (← LayerCull.Main.run line).toUInt32
  | .error rejection =>
    let stream ← if rejection = .help then IO.getStdout else IO.getStderr
    rejection.lines.forM stream.putStrLn
    return rejection.exitCode.toUInt32
