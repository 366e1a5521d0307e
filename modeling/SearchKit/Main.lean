import SearchKit.Command.Run
import SearchKit.Engine.Wire
import Std.Async.DNS
import Std.Async.TCP

/-!
The command line as a program: it reads files and the standard input, exchanges requests with the
engine over plain connections, and writes what the run of a command gives.
-/

open Std.Async

namespace SearchKit

set_option autoImplicit false

/-! ## Connections -/

/-- The addresses at which a host may be reached. -/
def hostAddresses (request : HttpRequest) : Async (Array Std.Net.IPAddr) := do
  match request.url.host with
  | some (.ipv4 address) =>
      return (Std.Net.IPv4Addr.ofString (String.ofList (Url.Ipv4.text address))).toArray.map .v4
  | some (.ipv6 pieces) =>
      return (Std.Net.IPv6Addr.ofString (String.ofList (Url.Ipv6.text pieces))).toArray.map .v6
  | some (.name name) => DNS.getAddrInfo (String.ofList name) (toString (Wire.port request).toNat)
  | none => return #[]

def socketAddress (address : Std.Net.IPAddr) (port : UInt16) : Std.Net.SocketAddress :=
  match address with
  | .v4 addr => .v4 ⟨addr, port⟩
  | .v6 addr => .v6 ⟨addr, port⟩

partial def receiveAll (socket : TCP.Socket.Client) (received : ByteArray) : Async ByteArray := do
  match ← socket.recv? 65536 with
  | some bytes => receiveAll socket (received ++ bytes)
  | none => return received

/-- What comes back from an address. Bytes that are no whole reply tell that it broke off. -/
def exchangeAt (request : HttpRequest) (address : Std.Net.IPAddr) :
    Async (Except TransportFault HttpReply) := do
  let socket ← TCP.Socket.Client.mk
  socket.connect (socketAddress address (Wire.port request))
  socket.send (Wire.requestText request).toUTF8
  let received ← receiveAll socket ByteArray.empty
  match Wire.reply? request.method received.toList with
  | some reply => return .ok reply
  | none =>
      if received.isEmpty then return .error (.notSent request.url.text)
      else return .error (.described "error decoding response body")

/-- The reply to a request, unless its host is not reached or needs an encrypted connection. -/
def exchange (request : HttpRequest) : IO (Except TransportFault HttpReply) := do
  let unreached := .error (.notSent request.url.text)
  if String.ofList request.url.scheme ≠ "http" then return unreached
  try
    Async.block do
      let addresses ← hostAddresses request
      match addresses[0]? with
      | some address => exchangeAt request address
      | none => return unreached
  catch _ => return unreached

/-! ## Dialogues -/

def writeEvent (event : LogEvent) : IO Unit := do
  let shown (value : LogValue) : String :=
    match value with
    | .text text => text
    | .count count => toString count
  let fields := event.fields.map fun field => " " ++ field.1 ++ "=" ++ shown field.2
  IO.eprintln (event.level.name ++ " " ++ event.message ++ String.join fields)

/-- Warnings and errors are always written, other events when they are asked for. -/
def isWritten (verbose : Bool) : LogLevel → Bool
  | .error | .warning => true
  | .info => verbose
  | .debug => false

def record (verbose : Bool) (event : LogEvent) : IO Unit :=
  if isWritten verbose event.level then writeEvent event else pure ()

def converse {α : Type} (verbose : Bool) : HttpClient → Dialogue α → IO α
  | _, .done result => pure result
  | client, .record event next => do
      record verbose event
      converse verbose client next
  | client, .perform action next => do
      let start := client.start action
      start.events.forM (record verbose)
      match start.request with
      | .error failure => converse verbose start.client (next (.error failure))
      | .ok request => do
          let reply ← exchange request
          converse verbose start.client (next (HttpClient.outcomeOf reply))

def runInvocation (around : Surroundings) (invocation : Invocation) : IO Report := do
  match invocation.command with
  | .onItsOwn command => return .ofResult invocation.asJson (command.run around)
  | .withEngine command =>
      match invocation.connect around with
      | .error failure => return .ofResult invocation.asJson (.error failure)
      | .ok client => do
          let ended ← converse invocation.verbose client (command.perform around).dialogue
          return .ofPrinted invocation.asJson ended

/-! ## Surroundings -/

/-- The number of an error, which some calls give with a minus sign. -/
def errorNumber (code : UInt32) : UInt32 := min code (0 - code)

/-- The number and the words of the system for a fault. -/
def systemFault : IO.Error → UInt32 × String
  | .alreadyExists _ code text | .otherError code text | .resourceBusy code text
  | .resourceVanished code text | .unsupportedOperation code text | .hardwareFault code text
  | .unsatisfiedConstraints code text | .illegalOperation code text | .protocolError code text
  | .timeExpired code text | .interrupted _ code text | .noFileOrDirectory _ code text
  | .invalidArgument _ code text | .permissionDenied _ code text | .resourceExhausted _ code text
  | .inappropriateType _ code text | .noSuchThing _ code text => (errorNumber code, text)
  | .unexpectedEof => (0, "unexpected end of file")
  | .userError text => (0, text)

def readFaultOf (onTheWay : Bool) (fault : IO.Error) : ReadFault :=
  match systemFault fault with
  | (2, _) => .notFound
  | (20, _) => .notDirectory
  | (21, _) => .isDirectory
  | (36, _) => .nameTooLong
  | (number, text) => .ofSystem text number.toNat onTheWay

def textOf (bytes : ByteArray) : Except ReadFault String :=
  match String.fromUTF8? bytes with
  | some text => .ok text
  | none => .error .notText

/-- Whether a path leads to something, readable or not. -/
def leadsSomewhere (path : String) : IO Bool := do
  try
    discard (IO.FS.realPath path)
    return true
  catch _ => return false

def readTextFile (path : String) : IO (Except ReadFault String) := do
  try
    return textOf (← IO.FS.readBinFile path)
  catch fault => return .error (readFaultOf (!(← leadsSomewhere path)) fault)

def readInput : IO (Except ReadFault String) := do
  try
    return textOf (← (← IO.getStdin).readBinToEnd)
  catch fault => return .error (readFaultOf false fault)

def namedFiles (invocation : Invocation) (settingsPath : Option String) : List String :=
  let named (argument : String) : List String :=
    match argument.toList with
    | '@' :: path => [String.ofList path]
    | _ => []
  let request (argument : String) : List String := if argument = "-" then [] else [argument]
  let files := match invocation.command with
    | .onItsOwn (.compile argument) => request argument
    | .onItsOwn (.completions _) => []
    | .withEngine (.search argument) => request argument
    | .withEngine (.raw wanted) => named wanted.query
    | .withEngine (.get _) | .withEngine (.multiGet _ _ _) => []
    | .withEngine (.index (.create _ settings _ mappings)) =>
        settings.toList.flatMap named ++ mappings.toList.flatMap named
    | .withEngine (.index (.mapping _ _ mapping)) => named mapping
    | .withEngine (.index (.exists _)) | .withEngine (.index (.delete _)) => []
    | .withEngine (.document (.save _ _ data _ _)) => named data
    | .withEngine (.document (.update _ data)) => named data
    | .withEngine (.document (.delete _)) => []
    | .withEngine (.document (.deleteByQuery _ _ query)) => named query
  (invocation.settingsPath.or settingsPath).toList ++ files

def readsInput (invocation : Invocation) : Bool :=
  match invocation.command with
  | .onItsOwn (.compile argument) | .withEngine (.search argument) => argument == "-"
  | _ => false

def surroundingsOf (invocation : Invocation) : IO Surroundings := do
  let settingsPath := Settings.generalPath (← IO.getEnv "XDG_CONFIG_HOME") (← IO.getEnv "HOME")
  let files ← (namedFiles invocation settingsPath).mapM fun path => do
    return (path, ← readTextFile path)
  let input ← if readsInput invocation then readInput else pure (.ok "")
  return ⟨fun path => (Entries.find? path files).getD (.error .notFound), input, settingsPath,
    fun _ => "TOML parse error"⟩

def finish (report : Report) : IO UInt32 := do
  IO.print report.output
  IO.eprint report.errors
  return report.exit.toUInt32

end SearchKit

def main (words : List String) : IO UInt32 := do
  match SearchKit.Arguments.read words with
  | .error halt => SearchKit.finish (.ofHalt halt)
  | .ok invocation => do
      let around ← SearchKit.surroundingsOf invocation
      SearchKit.finish (← SearchKit.runInvocation around invocation)
