import SearchKit.Command.Arguments
import SearchKit.Command.Perform
import SearchKit.Engine.Http

/-!
Running a command line: from its words to the exit code and the texts that are written.
-/

namespace SearchKit

set_option autoImplicit false

/-- How a run ends. The texts go to the standard output and to the standard error output. -/
structure Report where
  exit : UInt8
  output : String
  errors : String
deriving DecidableEq, Repr

inductive Output where
  | document (json : Json)
  | script (text : String)

def Output.text : Output → String
  | .document json => json.indentedText ++ "\n"
  | .script text => text

namespace Report

/-- A failure that is asked for as JSON is a document as good as any other. It is told behind what
was printed before it. -/
def ofFailure (asJson : Bool) (printed : String) (failure : CommandFailure) : Report :=
  if asJson then
    let document := (Status.failed failure.code failure.message).toJson
    ⟨0, printed ++ (Output.document document).text, ""⟩
  else ⟨1, printed, "error: " ++ failure.message ++ "\n"⟩

def ofResult (asJson : Bool) : Except CommandFailure Output → Report
  | .ok output => ⟨0, output.text, ""⟩
  | .error failure => ofFailure asJson "" failure

def ofPrinted (asJson : Bool) : Except CommandFailure Unit × String → Report
  | (.ok (), printed) => ⟨0, printed, ""⟩
  | (.error failure, printed) => ofFailure asJson printed failure

def usage : String :=
  "Usage: sift [--config PATH] [-v] [--json] COMMAND\n\nCommands: "
    ++ Text.join ", " firstWords ++ "\n"

/-- A command line that runs no command is answered at once. -/
def ofHalt : Arguments.Halt → Report
  | .misuse => ⟨2, "", usage⟩
  | .help => ⟨0, usage, ""⟩
  | .version => ⟨0, "sift 0.1.0\n", ""⟩

end Report

def LocalCommand.run (around : Surroundings) : LocalCommand → Except CommandFailure Output
  | .compile request => do
      let requests ← Requests.read around request
      let compiled ← requests.compiled
      return .document compiled
  | .completions shell => .ok (.script shell.script)

namespace Invocation

def settings (around : Surroundings) (invocation : Invocation) : Except Failure Settings :=
  Settings.load around.files around.diagnosis around.settingsPath invocation.settingsPath

def connect (around : Surroundings) (invocation : Invocation) :
    Except CommandFailure HttpClient := do
  let settings ← (invocation.settings around).mapError .ofLibrary
  (HttpClient.ofSettings settings).mapError .noClient

variable {τ : Type}

def run (transport : Transport τ) (wire : τ) (around : Surroundings) (invocation : Invocation) :
    Transcript τ Report :=
  match invocation.command with
  | .onItsOwn command => ⟨.ofResult invocation.asJson (command.run around), [], [], wire⟩
  | .withEngine command =>
      match invocation.connect around with
      | .error failure => ⟨.ofResult invocation.asJson (.error failure), [], [], wire⟩
      | .ok client =>
          let transcript := Dialogue.run (HttpClient.through transport)
            (command.perform around).dialogue (client, wire)
          ⟨.ofPrinted invocation.asJson transcript.result, transcript.exchanges,
            transcript.events, transcript.state.2⟩

end Invocation

def runWords {τ : Type} (transport : Transport τ) (wire : τ) (around : Surroundings)
    (words : List String) : Transcript τ Report :=
  match Arguments.read words with
  | .error halt => ⟨.ofHalt halt, [], [], wire⟩
  | .ok invocation => invocation.run transport wire around

end SearchKit
