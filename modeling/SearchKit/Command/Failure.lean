import SearchKit.Engine.Failure

/-!
Why a command fails, with the code and the text that are reported.
-/

namespace SearchKit

set_option autoImplicit false

inductive ArgumentFault where
  | inputUnread
  | requestUnread (path : String)
  | requestNotJson
  | requestNotDecoded
  | requestsNotDecoded
  | fileUnread (path : String)
  | argumentNotJson
  | idForSeveral
deriving DecidableEq, Repr

def ArgumentFault.message : ArgumentFault → String
  | .inputUnread => "read request from stdin"
  | .requestUnread path => "read request file " ++ path
  | .requestNotJson => "parse request JSON"
  | .requestNotDecoded => "decode search request"
  | .requestsNotDecoded => "decode search requests"
  | .fileUnread path => "read file " ++ path
  | .argumentNotJson => "parse JSON argument"
  | .idForSeveral => "--id only applies to a single document"

inductive CommandFailure where
  | ofLibrary (failure : Failure)
  | noClient (fault : ConfigurationFault)
  | ofArguments (fault : ArgumentFault)
deriving DecidableEq, Repr

namespace CommandFailure

def library? : CommandFailure → Option Failure
  | .ofLibrary failure => some failure
  | .noClient fault => some (.configuration fault)
  | .ofArguments _ => none

/-- The kind of the library's failure, or a common one for all others. -/
def code (failure : CommandFailure) : String :=
  match failure.library? with
  | some cause => cause.code
  | none => "error"

def message : CommandFailure → String
  | .ofLibrary failure => failure.message
  | .noClient _ => "build search client"
  | .ofArguments fault => fault.message

end CommandFailure

end SearchKit
