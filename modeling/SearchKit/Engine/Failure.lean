import SearchKit.Refusal
import SearchKit.Url.Fault

/-!
Everything that can go wrong, as causes, with the one text of each.
-/

namespace SearchKit

set_option autoImplicit false

inductive ConfigurationFault where
  | noHost
  | invalidHost (host : String) (fault : Url.Fault)
  | hostWithoutPath (host : String)
  /-- A settings file that is refused, with what the reader of its format says. -/
  | unreadableSettings (path diagnosis : String)
  | described (text : String)
deriving DecidableEq, Repr

def ConfigurationFault.message : ConfigurationFault → String
  | .noHost => "at least one host is required"
  | .invalidHost host fault => "invalid host " ++ Text.quote host ++ ": " ++ fault.message
  | .hostWithoutPath host =>
      "invalid host " ++ Text.quote host ++ ": expected a URL like http://localhost:9200"
  | .unreadableSettings path diagnosis => "parse " ++ path ++ ": " ++ diagnosis
  | .described text => text

inductive TransportFault where
  | notAddressable (url : String)
  | notSent (url : String)
  /-- Any other failure, such as a reply that breaks off, in the words of what carries requests. -/
  | described (text : String)
deriving DecidableEq, Repr

def TransportFault.message : TransportFault → String
  | .notAddressable url => "builder error for url (" ++ url ++ ")"
  | .notSent url => "error sending request for url (" ++ url ++ ")"
  | .described text => text

inductive ReadFault where
  | notFound
  /-- The path goes on behind a file. -/
  | notDirectory
  | nameTooLong
  | isDirectory
  | notText
  /-- Any other fault, as the system describes and numbers it: of the file, or on the way to it. -/
  | ofSystem (text : String) (number : Nat) (onTheWay : Bool)
deriving DecidableEq, Repr

namespace ReadFault

def message : ReadFault → String
  | .notFound => "No such file or directory (os error 2)"
  | .notDirectory => "Not a directory (os error 20)"
  | .nameTooLong => "File name too long (os error 36)"
  | .isDirectory => "Is a directory (os error 21)"
  | .notText => "stream did not contain valid UTF-8"
  | .ofSystem text number _ => text ++ " (os error " ++ toString number ++ ")"

/-- The path leads to no file, as far as can be seen. -/
def isAbsence : ReadFault → Bool
  | .notFound | .notDirectory | .nameTooLong => true
  | .isDirectory | .notText => false
  | .ofSystem _ _ onTheWay => onTheWay

end ReadFault

inductive SearchFault where
  | refusedByEngine (status : UInt16) (reason : Option String)
  | clientFailed (text : String)
  | answerNotObject
  | noResponses
  | responseCount (expected actual : Nat)
  | subSearch (position : Nat) (reason : String)
deriving DecidableEq, Repr

def SearchFault.message : SearchFault → String
  | .refusedByEngine status reason =>
      "engine returned HTTP " ++ toString status.toNat
        ++ (match reason with
          | some text => ". es msg: " ++ text
          | none => "")
  | .clientFailed text => text
  | .answerNotObject => "response is not a JSON object"
  | .noResponses => "response has no responses array"
  | .responseCount expected actual =>
      "expected " ++ toString expected ++ " responses, got " ++ toString actual
  | .subSearch position reason => "sub search " ++ toString position ++ ". es msg: " ++ reason

inductive Failure where
  | invalidRequest (refusal : Refusal)
  | searchFailed (uri : String) (fault : SearchFault)
  | operationFailed (operation text : String)
  | clientClosed
  | configuration (fault : ConfigurationFault)
  | http (fault : TransportFault)
  | json (fault : Json.Fault)
  | read (fault : ReadFault)
deriving DecidableEq, Repr

namespace Failure

def code : Failure → String
  | .invalidRequest _ => "invalid_request"
  | .searchFailed _ _ => "search_failed"
  | .operationFailed _ _ => "operation_failed"
  | .clientClosed => "client_closed"
  | .configuration _ => "config"
  | .http _ => "http"
  | .json _ => "json"
  | .read _ => "io"

def message : Failure → String
  | .invalidRequest refusal => "invalid request: " ++ refusal.message
  | .searchFailed uri fault => "search failed! [" ++ uri ++ "] " ++ fault.message
  | .operationFailed operation text => operation ++ " failed! " ++ text
  | .clientClosed => "search client is shut down"
  | .configuration fault => "invalid configuration: " ++ fault.message
  | .http fault => "HTTP error: " ++ fault.message
  | .json fault => "JSON error: " ++ fault.message
  | .read fault => "IO error: " ++ fault.message

end Failure

end SearchKit
