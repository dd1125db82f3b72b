import Handoff.Config.Basic
import Handoff.Gather.Basic
import Handoff.Text.Base64
import Handoff.Text.Truncate

/-!
One upload over HTTP: the request that is made of a result file, and what its answer amounts to.
-/

namespace Handoff.Upload

/-- A request as it is received. -/
structure Request where
  method : UploadMethod
  -- The path and query of the URL.
  target : List Char
  contentType : Option ContentType
  userAgent : String
  authorization : Option String
  body : Bytes
deriving DecidableEq, Repr

/-- How a server answers every request. -/
inductive Answer
  | response (status : Status) (body : Bytes)
  -- The connection ends without an answer.
  | hangUp
deriving DecidableEq, Repr

abbrev Network := Url → Option Answer

def userAgent : String := "waitfile-worker/0.1.0"

/-- The most bytes of an answer's body that are kept. -/
def bodyLimit : Nat := 512

/-- User and password of a URL, decoded. A user that is not UTF-8 does not count, nor does a password. -/
def credentials? (url : Url) : Option (List Char × Option (List Char)) :=
  match url.authority with
  | none => none
  | some a =>
    match Text.decode (Url.percentDecode a.username) with
    | .error _ => none
    | .ok user =>
      let password := if a.password = [] then none
        else match Text.decode (Url.percentDecode a.password) with
          | .ok cs => some cs
          | .error _ => none
      if user = [] ∧ password = none then none else some (user, password)

/-- The URL that is asked: without user and password, if these go into a header. -/
def askedUrl (url : Url) : Url :=
  match credentials? url with
  | none => url
  | some _ =>
    let authority := url.authority.map (fun a => { a with username := [], password := [] })
    { url with authority := authority }

def authorization (url : Url) : Option String :=
  (credentials? url).map (fun (user, password) =>
    "Basic " ++ String.ofList (Base64.encode (Text.encode (user ++ ':' :: password.getD []))))

def longestUrl : Nat := 65534

def isAskable (host : Url.Host) : Bool :=
  host ≠ .empty && host.text.all (fun c => !("\"`\x7b\x7d".toList.contains c))

def isUsable (url : Url) : Bool :=
  (url.scheme = "http".toList || url.scheme = "https".toList) && url.text.length ≤ longestUrl &&
    (match url.authority with
    | some a => isAskable a.host
    | none => false)

def request (method : UploadMethod) (call : Gather.Call) (body : Bytes) : Request where
  method := method
  target := call.url.target
  contentType := call.contentType
  userAgent := userAgent
  authorization := authorization call.url
  body := body

def answerBody (status : Status) (body : Bytes) : Bytes := if status.isBare then [] else body

/-- The body as it is kept in an error: the longest start, in whole characters, of at most 512 bytes. -/
def keptBody (bs : Bytes) : String :=
  String.ofList (Text.truncate bodyLimit (Text.decodeLossy bs).toList)

/-- What an answer amounts to. Nothing follows an answer that does not end an exchange. -/
def judge (url : Url) : Answer → Except Error Unit
  | .response status body =>
    if !status.isFinal then .error (.request url .noAnswer (askedUrl url))
    else if status.isSuccess then .ok ()
    else .error (.unexpectedStatus url status (keptBody (answerBody status body)))
  | .hangUp => .error (.request url .noAnswer (askedUrl url))

/-- An upload as it went: the result, and the request if one was received. -/
structure Exchange where
  result : Except Error Unit
  received : Option Request

/-- Makes an upload. A request is sent once, if the URL is usable, a server is reached, the file can be
read and there is time. -/
def exchange (network : Network) (s : TransmitSection) (method : UploadMethod) (call : Gather.Call) :
    Exchange :=
  if isUsable (askedUrl call.url) then
    match network call.url, call.body with
    | some answer, .ok body =>
      if s.requestTimeoutSecs = 0 then ⟨.error (.request call.url .noAnswer (askedUrl call.url)), none⟩
      else ⟨judge call.url answer, some (request method call body)⟩
    | _, _ => ⟨.error (.request call.url .noAnswer (askedUrl call.url)), none⟩
  else ⟨.error (.request call.url .unusableUrl (askedUrl call.url)), none⟩

def sendingEntry (method : UploadMethod) (call : Gather.Call) : Log.Entry :=
  ⟨.debug, .upload, "Sending result file",
    [("url", .text call.url.shown), ("bytes", .natural call.size), ("method", .text method.title)]⟩

def acceptedEntry (url : Url) (status : Status) : Log.Entry :=
  ⟨.debug, .upload, "Aggregator accepted results",
    [("url", .text url.shown), ("status", .text status.shown)]⟩

def closingEntries (network : Network) (e : Exchange) (url : Url) : List Log.Entry :=
  match e.result, network url with
  | .ok (), some (.response status _) => [acceptedEntry url status]
  | _, _ => []

/-- The transmitter that uploads over HTTP. It does not wait. -/
def transmitter (network : Network) (s : TransmitSection) (method : UploadMethod) : Gather.Transmitter where
  delay := 0
  deliver call :=
    let e := exchange network s method call
    ⟨e.result, sendingEntry method call :: closingEntries network e call.url⟩

end Handoff.Upload
