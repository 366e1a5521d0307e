import SearchKit.Engine.Http
import SearchKit.Text.Basic

/-!
Requests and replies as they pass over a connection that is closed after one exchange: a head of
lines, an empty line, and the body. The length of a reply's body is given by a header, by chunks of
given sizes, or by the end of the connection.
-/

namespace SearchKit

set_option autoImplicit false

namespace Wire

def lineEnd : String := "\r\n"

/-! ## Requests -/

def target (request : HttpRequest) : String :=
  let path := if request.url.path = [] then Url.Path.root else request.url.path
  String.ofList (path.text ++ Url.markedText '?' request.url.query)

def hostName (request : HttpRequest) : String :=
  String.ofList ((request.url.host.map Url.Host.text).getD [])

def port (request : HttpRequest) : UInt16 :=
  (request.url.port.or (Url.defaultPort? request.url.scheme)).getD 80

/-- The host with its port, unless that is the default one. -/
def hostHeader (request : HttpRequest) : String :=
  hostName request ++
    (match request.url.port with
      | some number => ":" ++ toString number.toNat
      | none => "")

def headers (request : HttpRequest) : Entries String :=
  Entries.ofPresent
    [("Host", some (hostHeader request)), ("Accept", some "*/*"), ("Connection", some "close"),
      ("Authorization", request.credentials.map fun credentials =>
        "Basic " ++ String.ofList (Text.base64 credentials)),
      ("Content-Type", request.contentType),
      ("Content-Length", request.body.map fun body => toString body.utf8ByteSize)]

def requestText (request : HttpRequest) : String :=
  request.method.name ++ " " ++ target request ++ " HTTP/1.1" ++ lineEnd
    ++ String.join ((headers request).map fun header =>
      header.1 ++ ": " ++ header.2 ++ lineEnd)
    ++ lineEnd ++ request.body.getD ""

/-! ## Replies -/

def splitLine : List UInt8 → Option (List UInt8 × List UInt8)
  | [] => none
  | 13 :: 10 :: rest => some ([], rest)
  | byte :: rest => (splitLine rest).map fun parts => (byte :: parts.1, parts.2)

def lineChars (line : List UInt8) : List Char := line.map fun byte => Char.ofNat byte.toNat

/-- Name and value of a header. Names are read without regard to case. -/
def headerOf (line : List UInt8) : String × String :=
  let (name, value) := (lineChars line).span (· ≠ ':')
  (String.ofList (name.map Char.toLower),
    String.ofList (Text.trimBy Text.isBlank (value.drop 1)))

def readHeaders : Nat → List UInt8 → Option (Entries String × List UInt8)
  | 0, _ => none
  | bound + 1, bytes => do
      let (line, rest) ← splitLine bytes
      if line = [] then return ([], rest)
      else
        let (headers, body) ← readHeaders bound rest
        return (headerOf line :: headers, body)

def statusOf (line : List UInt8) : Option UInt16 := do
  let word ← (Text.splitChars ' ' (lineChars line))[1]?
  let number ← Text.number? 10 word
  if 100 ≤ number ∧ number < 1000 then some (UInt16.ofNat number) else none

/-- The bytes of chunks, each with its size in a line before it. The last chunk has size zero. -/
def joinChunks : Nat → List UInt8 → Option (List UInt8)
  | 0, _ => none
  | bound + 1, bytes => do
      let (line, rest) ← splitLine bytes
      let size ← Text.number? 16 ((lineChars line).takeWhile Text.isHexDigit)
      if size = 0 then return []
      else if rest.length < size then none
      else
        let (_, next) ← splitLine (rest.drop size)
        let further ← joinChunks bound next
        return rest.take size ++ further

def bodyOf (method : Method) (headers : Entries String) (bytes : List UInt8) :
    Option (List UInt8) :=
  if method = .head then some []
  else if Entries.find? "transfer-encoding" headers = some "chunked" then
    joinChunks (bytes.length + 1) bytes
  else
    match Entries.find? "content-length" headers with
    | none => some bytes
    | some text =>
        match Text.number? 10 text.toList with
        | none => none
        | some size => if size ≤ bytes.length then some (bytes.take size) else none

def reply? (method : Method) (bytes : List UInt8) : Option HttpReply := do
  let (line, rest) ← splitLine bytes
  let status ← statusOf line
  let (headers, after) ← readHeaders (rest.length + 1) rest
  let body ← String.fromUTF8? ⟨(← bodyOf method headers after).toArray⟩
  return ⟨status, body⟩

end Wire

end SearchKit
