import Handoff.Upload.Exchange

/-!
Requests and answers as bytes of HTTP/1.1, on a connection for one request.
-/

namespace Handoff.Upload

def headerLine (name value : String) : String := name ++ ": " ++ value ++ "\r\n"

def Request.wire (r : Request) (host : List Char) : Bytes :=
  let optional (name : String) (value : Option String) : String := match value with
    | some value => headerLine name value
    | none => ""
  let head := r.method.verb ++ " " ++ String.ofList r.target ++ " HTTP/1.1\r\n" ++
    headerLine "host" (String.ofList host) ++
    headerLine "user-agent" r.userAgent ++
    optional "content-type" (r.contentType.map ContentType.header) ++
    optional "authorization" r.authorization ++
    headerLine "content-length" (toString r.body.length) ++
    headerLine "connection" "close" ++ "\r\n"
  Text.encode head.toList ++ r.body

/-- The bytes before the first empty line, and those behind it. -/
def splitHead : Bytes → Bytes × Bytes
  | 0x0D :: 0x0A :: 0x0D :: 0x0A :: rest => ([], rest)
  | b :: rest =>
    let (head, body) := splitHead rest
    (b :: head, body)
  | [] => ([], [])

/-- The content of a body in chunks, each behind a line with its length. -/
def unchunked (bs : Bytes) : Bytes :=
  match _h : Text.cutAt (· == 0x0A) bs with
  | (line, rest) =>
    let digits := (Text.decodeLossy line).toList.takeWhile (Text.isDigit 16)
    match Text.numeral? 16 digits, rest with
    | some (n + 1), _ :: content => content.take (n + 1) ++ unchunked (content.drop (n + 3))
    | _, _ => []
termination_by bs.length
decreasing_by
  have hr : (bs.dropWhile (fun x => !(x == 0x0A))).length ≤ bs.length :=
    (List.dropWhile_suffix _).sublist.length_le
  have hc := congrArg (fun p => p.2.length) _h
  simp only [Text.cutAt, List.length_cons] at hc
  simp only [List.length_drop]
  omega

/-- Reads an answer. Anything that has no status counts as none. -/
def Answer.ofWire (bs : Bytes) : Answer :=
  let (head, body) := splitHead bs
  let text := (Text.decodeLossy head).toList
  match Text.splitAt (· == ' ') (text.takeWhile (· ≠ '\r')) with
  | _ :: code :: _ =>
    match Text.numeral? 10 code with
    | some code =>
      let lines := (Text.splitAt (· == '\n') (text.map Char.toLower)).map (fun line =>
        String.ofList (line.filter (fun c => c ≠ ' ' ∧ c ≠ '\r')))
      .response ⟨code⟩ (if "transfer-encoding:chunked" ∈ lines then unchunked body else body)
    | none => .hangUp
  | _ => .hangUp

end Handoff.Upload
