import SearchKit.Engine.Failure
import SearchKit.Text.Basic

/-!
Settings: the hosts of the engine, timeouts and the form of the log.
-/

namespace SearchKit

set_option autoImplicit false

inductive LogFormat where
  | text
  | json
deriving DecidableEq, Repr

def LogFormat.word : LogFormat → String
  | .text => "text"
  | .json => "json"

structure Settings where
  hosts : List String
  readTimeoutMs : UInt64
  connectTimeoutMs : UInt64
  logFormat : LogFormat
deriving DecidableEq, Repr

namespace Settings

def default : Settings := ⟨["http://localhost:9200"], 3000, 3000, .text⟩

/-- The address of a host as it is looked at: without white space around it and slashes at its
end. -/
def addressOf (host : String) : String :=
  String.ofList (Text.trimEnd '/' (Text.trimBy Text.isBlank host.toList))

def addresses (settings : Settings) : List String :=
  (settings.hosts.map addressOf).filter fun address => !address.isEmpty

def validate (settings : Settings) : Except ConfigurationFault Unit :=
  if settings.addresses.isEmpty then .error .noHost else .ok ()

end Settings

end SearchKit
