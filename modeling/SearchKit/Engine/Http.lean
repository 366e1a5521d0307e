import SearchKit.Engine.Dialogue
import SearchKit.Settings.Basic
import SearchKit.Url.Reader

/-!
The client that reaches the engine over HTTP. Its hosts take turns: each action goes to the next
one. What carries a request to its host and brings the reply is a parameter.
-/

namespace SearchKit

set_option autoImplicit false

structure HttpRequest where
  method : Method
  url : Url
  /-- Name and password with a colon between them. -/
  credentials : Option (List UInt8)
  contentType : Option String
  body : Option String
deriving DecidableEq, Repr

structure HttpReply where
  status : UInt16
  body : String
deriving DecidableEq, Repr

structure HttpClient where
  hosts : List Url
  hosts_ne_nil : hosts ≠ []
  /-- Counts the actions, and starts again when the count is full. -/
  turn : UInt64
  opened : Bool

/-- How an action starts: the request to send unless that is impossible, the events up to then, and
the client after it. -/
structure HttpClient.Start where
  request : Except Failure HttpRequest
  events : List LogEvent
  client : HttpClient

/-- Sends requests, each of which is answered or fails. -/
structure Transport (τ : Type) where
  send : τ → HttpRequest → Except TransportFault HttpReply × τ

/-- No request reaches its host. -/
def Transport.unreachable : Transport Unit :=
  ⟨fun _ request => (.error (.notSent request.url.text), ())⟩

def LogEvent.requestStarted (method : Method) (url : Url) : LogEvent :=
  ⟨.debug, "engine request", [("method", .text method.name), ("url", .text url.text)]⟩

namespace HttpClient

def hostUrl (address : String) : Except ConfigurationFault Url :=
  match Url.ofText address with
  | .error fault => .error (.invalidHost address fault)
  | .ok none => .error (.hostWithoutPath address)
  | .ok (some url) => .ok url

def ofSettings (settings : Settings) : Except ConfigurationFault HttpClient := do
  match ← settings.addresses.mapM hostUrl with
  | [] => throw .noHost
  | first :: more => return ⟨first :: more, by simp, 0, true⟩

def shutDown (client : HttpClient) : HttpClient := { client with opened := false }

def currentHost (client : HttpClient) : Url :=
  client.hosts.get ⟨client.turn.toNat % client.hosts.length,
    Nat.mod_lt _ (List.length_pos_iff.mpr client.hosts_ne_nil)⟩

def urlFor (client : HttpClient) (action : Action) : Url :=
  client.currentHost.withSegments action.segments

def contentType (action : Action) : String :=
  if action.isLines then "application/x-ndjson" else "application/json"

def requestTo (url : Url) (action : Action) : Except Failure HttpRequest :=
  if url.requestUrl.isAddressable then
    .ok ⟨action.method, url.requestUrl, url.credentials?,
      action.body.map fun _ => contentType action, action.body⟩
  else .error (.http (.notAddressable url.requestUrl.text))

/-- Starts an action. A client that was shut down starts none. -/
def start (client : HttpClient) (action : Action) : Start :=
  if client.opened then
    let url := client.urlFor action
    ⟨requestTo url action, [.requestStarted action.method url],
      { client with turn := client.turn + 1 }⟩
  else ⟨.error .clientClosed, [], client⟩

def outcomeOf : Except TransportFault HttpReply → Outcome
  | .ok reply => .ok (Answer.ofParts reply.status reply.body)
  | .error fault => .error (.http fault)

variable {τ : Type}

def execute (transport : Transport τ) (state : HttpClient × τ) (action : Action) :
    Turn (HttpClient × τ) :=
  let start := state.1.start action
  match start.request with
  | .error failure => ⟨.error failure, start.events, (start.client, state.2)⟩
  | .ok request =>
      let (reply, wire) := transport.send state.2 request
      ⟨outcomeOf reply, start.events, (start.client, wire)⟩

/-- The client for dialogues over a transport, whose state goes along. -/
def through (transport : Transport τ) : Client (HttpClient × τ) := ⟨execute transport⟩

end HttpClient

end SearchKit
