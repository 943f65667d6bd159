import NodeAudit.Cli.Session
import NodeAudit.Http.Wire
import Std.Async.DNS
import Std.Async.TCP
import Std.Async.Timer
import Std.Internal.UV.System
import Std.Time

/-!
# The program

Gathers what surrounds a session, carries its requests over the network and puts its results into
the world. The requests of a session do not depend on their answers: they are recorded first, then
sent, and the session is run with what the network made of them. The requests of a benchmark are
sent by as many workers as may be in flight at once, those of a stress run block by block.

Connections are plain TCP; an address that asks for an encrypted connection cannot be reached.
-/

namespace NodeAudit.Program

open Std.Async

/-! ## The network -/

/-- Receive until the connection is closed. -/
partial def receive (socket : TCP.Socket.Client) (received : List UInt8) : Async (List UInt8) := do
  match ← socket.recv? 65536 with
  | some bytes => receive socket (received ++ bytes.toList)
  | none => return received

/-- The addresses of the host of a request. -/
def addresses (p : Http.Post) : Async (List Std.Net.SocketAddress) := do
  let host := match p.url.host? with
    | some (.v6 groups) => Url.Address.v6Text groups
    | some host => host.text
    | none => []
  let port := UInt16.ofNat ((p.url.port? <|> Url.defaultPort? p.url.scheme).getD 0)
  let found ← DNS.getAddrInfo (String.ofList host) ""
  return found.toList.map fun address =>
    match address with
    | .v4 addr => .v4 { addr, port }
    | .v6 addr => .v6 { addr, port }

/-- Connect to the first address that takes connections. -/
def connect : List Std.Net.SocketAddress → Async (Option TCP.Socket.Client)
  | [] => return none
  | address :: rest => do
    let socket ← TCP.Socket.Client.mk
    try
      socket.connect address
      return some socket
    catch _ => connect rest

/-- Send a request and read its answer. -/
def converse (p : Http.Post) : Async Http.Exchange.Result := do
  if p.url.scheme != "http".toList then return .refused
  match ← connect (← addresses p) with
  | none => return .refused
  | some socket =>
    try
      socket.send ⟨p.bytes.toArray⟩
      match Http.Answer.read? (← receive socket []) with
      | some (status, body) => return .answered status body
      | none => return .dropped
    catch _ => return .dropped

/-- The longest wait for an answer, in milliseconds. -/
def longestWait : Nat := 2147483647

instance : Inhabited Http.Exchange.Result := ⟨.refused⟩

/-- A number of nanoseconds as a span; zero stands for a number beyond the largest span. -/
def spanOfNanos (n : Nat) : Span :=
  (Span.ofParts? (n / 1000000000) (n % 1000000000)).getD Span.zero

/-- Carry a request over the network. -/
def exchange (p : Http.Post) : IO Http.Exchange := do
  let before ← IO.monoNanosNow
  let wait := min p.timeout.toMillis longestWait
  let result ←
    try
      Async.block (Async.race (converse p) (do
        sleep (.ofNat wait)
        return .unanswered))
    catch _ => pure .refused
  let after ← IO.monoNanosNow
  return { result, time := spanOfNanos (after - before) }

/-- One worker: carry the next request that no other worker has taken, until none is left. -/
partial def work (posts : Array Http.Post) (next : IO.Ref Nat)
    (carried : List (Nat × Http.Exchange)) : IO (List (Nat × Http.Exchange)) := do
  let i ← next.modifyGet fun i => (i, i + 1)
  match posts[i]? with
  | none => return carried
  | some p => work posts next ((i, ← exchange p) :: carried)

/-- Carry requests over the network with so many in flight at once. What becomes of them stands in
the order in which they were started. -/
def exchangeAll (atMost : Nat) (posts : List Http.Post) : IO (List Http.Exchange) := do
  let next ← IO.mkRef 0
  let workers ← (List.replicate (min atMost posts.length) ()).mapM fun _ =>
    IO.asTask (work posts.toArray next []) .dedicated
  let carried ← workers.mapM fun worker => IO.ofExcept worker.get
  return (carried.flatten.mergeSort fun a b => a.1 ≤ b.1).map (·.2)

/-- Carry requests over the network in blocks, each of which begins when the last answer of the one
before it has come. -/
partial def exchangeBlocks (plan : Bench.Plan) (posts : List Http.Post) :
    IO (List Http.Exchange) := do
  if posts.isEmpty || plan.requests = 0 then return []
  let block ← exchangeAll plan.maxConcurrent (posts.take plan.requests)
  return block ++ (← exchangeBlocks plan (posts.drop plan.requests))

/-! ## Files -/

/-- What stands at a place, if anything does. -/
def look (place : List String) : IO (Option Files.Node) := do
  let path := "/" ++ Files.joined place
  try
    if ← (← IO.FS.realPath path).isDir then return some .directory
  catch _ => pure ()
  try
    return some (.file (← IO.FS.readFile path))
  catch _ => pure ()
  try
    let _ ← IO.FS.readBinFile path
    return some .binary
  catch _ => return none

/-- The tree with what stands on the way from a place. -/
def survey (t : Files.Tree) (place : List String) : List String → IO Files.Tree
  | [] => return t
  | part :: rest => do
    let place :=
      if part = "." then place else if part = ".." then place.dropLast else place ++ [part]
    match ← look place with
    | none => return t
    | some node =>
      let t :=
        if place.isEmpty then t
        else { t with nodes := t.nodes.insert (Files.joined place) node }
      if node = .directory then survey t place rest else return t

/-- The tree with what stands on a path. -/
def surveyPath (t : Files.Tree) (path : String) : IO Files.Tree :=
  survey t (if path.startsWith "/" then [] else t.here) (Files.parts path)

/-- The tree with the file of the deployment, in the working directory and in those around it. -/
def surveyUpward (t : Files.Tree) (name : String) : IO Files.Tree :=
  (List.range (t.here.length + 1)).foldlM (fun t n => survey t [] (t.here.take n ++ [name])) t

/-- Write the files that a session changed. -/
def settle (before after : Files.Tree) : IO Unit := do
  for (path, node) in after.nodes do
    match node with
    | .file text => if before.nodes.get? path ≠ some node then IO.FS.writeFile ("/" ++ path) text
    | _ => pure ()

/-! ## Sessions -/

/-- The time as it stands in a report. -/
def timeText : IO String := do
  let now := Std.Time.DateTime.ofTimestampWithZone (← Std.Time.Timestamp.now) .UTC
  return now.format "uuuu-MM-dd" ++ "T" ++ now.format "HH:mm:ss.nnnnnnnnn" ++ "+00:00"

/-- The variables of the process. -/
def environment : IO Environment := do
  return { entries := Entries.sort (← Std.Internal.UV.System.osEnviron).toList }

/-- What surrounds a session with the given command line. -/
def surroundings (line : List String) : IO Cli.Setting := do
  let environment ← environment
  let here := Files.parts (toString (← IO.currentDir))
  let name := Environment.File.fileName
    (environment.nonBlank? Environment.File.deploymentVariable)
  let mut files ← surveyUpward { here } name
  if let .ok arguments := Cli.Arguments.read line then
    if let some path := arguments.config? then files ← surveyPath files path
    if let .ok config := Cli.configuration arguments environment files then
      if let some path := Cli.reportPath? config arguments.command then
        files ← surveyPath files path
  let clock := (← Std.Time.Timestamp.now).toMillisecondsSinceUnixEpoch
  return { environment, files, now := ← timeText, clock := UInt64.ofNat clock.val.toNat }

/-- How a command line sends more than one request at a time. -/
def plan? (line : List String) (setting : Cli.Setting) : Option Bench.Plan := do
  let arguments ← (Cli.Arguments.read line).toOption
  let environment := (Environment.File.loadFrom setting.files setting.environment).1
  let config ← (Cli.configuration arguments environment setting.files).toOption
  Cli.plan? config arguments.command

/-- One session in the world. -/
def session (line : List String) : IO UInt32 := do
  let setting ← surroundings line
  let posts := (Cli.execute line setting Http.recording []).world
  let before ← IO.monoNanosNow
  let exchanges ←
    match plan? line setting with
    | some plan => exchangeBlocks plan posts
    | none => posts.mapM exchange
  let after ← IO.monoNanosNow
  let s := Cli.execute line { setting with elapsed := spanOfNanos (after - before) }
    Http.replaying exchanges
  settle setting.files s.files
  for text in s.out do IO.println text
  for text in s.err do IO.eprintln text
  return UInt32.ofNat s.exit

end NodeAudit.Program

/-- The program. -/
def main (line : List String) : IO UInt32 := NodeAudit.Program.session line
