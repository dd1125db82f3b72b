import Handoff.Proofs.Upload.Exchange
import Handoff.Upload.File

/-!
What becomes of one upload. The server receives one request with the whole file, or none at all, and the
result tells a success from any other answer and from none.
-/

namespace Handoff.Upload

/-- What is relied on of a client: it sends the request it is given. With these settings it does for a URL that
a request can be written for, if there is time. -/
structure Sends (s : TransmitSection) (url : Url) : Prop where
  usable : isUsable (askedUrl url) = true
  timed : s.requestTimeoutSecs ≠ 0

instance (s : TransmitSection) (url : Url) : Decidable (Sends s url) :=
  decidable_of_iff (isUsable (askedUrl url) = true ∧ s.requestTimeoutSecs ≠ 0)
    ⟨fun h => ⟨h.1, h.2⟩, fun h => ⟨h.usable, h.timed⟩⟩

/-- The request that uploads a file: its target is what the URL has between host and fragment. -/
def fileRequest (method : UploadMethod) (url : Url) (path : Handoff.Path) (content : Bytes) : Request where
  method := method
  target := url.path.text ++ Url.tail '?' url.query
  contentType := ContentType.ofPath? path
  userAgent := userAgent
  authorization := authorization url
  body := content

/-- The path leads to a regular file with this content. -/
def IsRegular (fs : FileSystem) (path : Handoff.Path) (content : Bytes) : Prop :=
  ∃ id, fs.find path = .ok id ∧ fs.nodes[id]? = some (.file content)

/-- How an upload is classified by the answer to it. -/
structure Classified (method : UploadMethod) (url : Url) (path : Handoff.Path) (content : Bytes)
    (answer : Answer) (upload : FileUpload) : Prop where
  received : upload.received = some (fileRequest method url path content)
  ok_iff : upload.result = .ok () ↔
    ∃ status text, answer = .response status text ∧ 200 ≤ status.code ∧ status.code ≤ 299
  unexpected : ∀ status text, answer = .response status text → status.isFinal = true →
    ¬ (200 ≤ status.code ∧ status.code ≤ 299) →
      ∃ kept, upload.result = .error (.upload (.unexpectedStatus url status kept))
  unanswered : answer = .hangUp → upload.result = .error (.upload (.request url .noAnswer (askedUrl url)))

theorem Status.isSuccess_iff {status : Status} :
    status.isSuccess = true ↔ 200 ≤ status.code ∧ status.code ≤ 299 := by
  rw [isSuccess, Bool.and_eq_true, decide_eq_true_eq, decide_eq_true_eq]
  omega

theorem Answer.accepts_iff {answer : Answer} : answer.accepts = true ↔
    ∃ status text, answer = .response status text ∧ 200 ≤ status.code ∧ status.code ≤ 299 := by
  cases answer with
  | hangUp => exact ⟨nofun, nofun⟩
  | response status text =>
    rw [accepts, Status.isSuccess_iff]
    constructor
    · exact fun h => ⟨status, text, rfl, h⟩
    · rintro ⟨_, _, h, hrange⟩
      obtain ⟨rfl, rfl⟩ := Answer.response.inj h
      exact hrange

theorem judge_unexpected {url : Url} {status : Status} {text : Bytes} (hfinal : status.isFinal = true)
    (hrange : ¬ (200 ≤ status.code ∧ status.code ≤ 299)) :
    judge url (.response status text) =
      .error (.unexpectedStatus url status (keptBody (answerBody status text))) := by
  rw [← Status.isSuccess_iff, Bool.not_eq_true] at hrange
  simp [judge, hfinal, hrange]

section
variable {fs : FileSystem} {network : Network} {s : TransmitSection} {method : UploadMethod} {url : Url}
  {path : Handoff.Path} {content : Bytes} {answer : Answer}

/-- An upload with a client that is set up ends as its exchange does. -/
theorem uploadFile_regular (hclient : (Tls.setUp fs s).1 = .ok ()) (hfile : IsRegular fs path content)
    (network : Network) (method : UploadMethod) (url : Url) :
    ∃ size, let e := exchange network s method ⟨url, path, ContentType.ofPath? path, size, .ok content⟩
      (uploadFile fs network s method url path).received = e.received ∧
      (uploadFile fs network s method url path).result = e.result.mapError .upload := by
  obtain ⟨id, hfind, hnode⟩ := hfile
  have hcontent : fs.content id = .ok content := by rw [FileSystem.content, hnode]
  refine ⟨fs.size id, ?_⟩
  cases hsetUp : Tls.setUp fs s with
  | mk outcome told =>
    rw [hsetUp] at hclient
    obtain rfl : outcome = .ok () := hclient
    simp only [uploadFile, hsetUp, Artifact.openFile, hfind, Artifact.readAll, hcontent]
    cases
      (exchange network s method ⟨url, path, ContentType.ofPath? path, fs.size id, .ok content⟩).result with
    | ok _ => exact ⟨rfl, rfl⟩
    | error cause => exact ⟨rfl, rfl⟩

theorem exchange_sent (hserver : network url = some answer) (hsends : Sends s url) (size : Nat) :
    exchange network s method ⟨url, path, ContentType.ofPath? path, size, .ok content⟩ =
      ⟨judge url answer, some (fileRequest method url path content)⟩ := by
  simp only [exchange, hsends.usable, if_true, hserver, hsends.timed, if_false]
  rfl

theorem exchange_unsent (network : Network) (method : UploadMethod) {call : Gather.Call}
    (hsends : ¬ Sends s call.url) :
    ∃ fault, exchange network s method call =
      ⟨.error (.request call.url fault (askedUrl call.url)), none⟩ := by
  unfold exchange
  split
  · rename_i husable
    split
    · have htime : s.requestTimeoutSecs = 0 :=
        Classical.byContradiction fun htimed => hsends ⟨husable, htimed⟩
      rw [if_pos htime]
      exact ⟨_, rfl⟩
    · exact ⟨_, rfl⟩
  · exact ⟨_, rfl⟩

/-- An upload of a regular file to a server that answers is classified by the answer, unless its client
sends nothing: then no request is received, and the result says so. -/
theorem uploadFile_classified (hclient : (Tls.setUp fs s).1 = .ok ()) (hfile : IsRegular fs path content)
    (hserver : network url = some answer) :
    (Sends s url → Classified method url path content answer (uploadFile fs network s method url path)) ∧
    (¬ Sends s url → (uploadFile fs network s method url path).received = none ∧
      ∃ fault, (uploadFile fs network s method url path).result =
        .error (.upload (.request url fault (askedUrl url)))) := by
  obtain ⟨size, hreceived, hresult⟩ := uploadFile_regular hclient hfile network method url
  constructor
  · intro hsends
    rw [exchange_sent hserver hsends] at hreceived hresult
    refine ⟨hreceived, ?_, ?_, ?_⟩
    · rw [hresult, ← Answer.accepts_iff, ← judge_ok_iff url]
      cases judge url answer with
      | ok _ => exact ⟨fun _ => rfl, fun _ => rfl⟩
      | error cause => exact ⟨nofun, nofun⟩
    · rintro status text rfl hfinal hrange
      rw [hresult, judge_unexpected hfinal hrange]
      exact ⟨_, rfl⟩
    · rintro rfl
      rw [hresult]
      rfl
  · intro hsends
    have hcall :
        ¬ Sends s (⟨url, path, ContentType.ofPath? path, size, .ok content⟩ : Gather.Call).url := hsends
    obtain ⟨fault, hexchange⟩ := exchange_unsent network method hcall
    rw [hexchange] at hreceived hresult
    exact ⟨hreceived, fault, hresult⟩

end

/-- A result file in the working directory. -/
def oneFile : FileSystem where
  nodes := #[.directory 0 [(Text.encode "results.tar.gz".toList, 1)], .file [0x1F, 0x8B]]
  workingDirectory := 0

def aggregatorUrl : Url where
  scheme := "http".toList
  authority := some ⟨"ops".toList, "pw".toList, .name "agg".toList, some 8080⟩
  path := .segments ["upload".toList]
  query := some "run=1".toList
  fragment := some "top".toList

def refusing : Network := fun _ => some (.response ⟨409⟩ [])

def tarball : Handoff.Path := ⟨Text.encode "results.tar.gz".toList⟩

/-- A server that refuses a file gets all of it once, without the user and the fragment of the URL. -/
theorem uploadFile_refused :
    (∃ r, (uploadFile oneFile refusing {} .put aggregatorUrl tarball).received = some r ∧
      r.target = "/upload?run=1".toList ∧ r.contentType = some .gzip ∧ r.body = [0x1F, 0x8B]) ∧
    ∃ kept, (uploadFile oneFile refusing {} .put aggregatorUrl tarball).result =
      .error (.upload (.unexpectedStatus aggregatorUrl ⟨409⟩ kept)) := by
  have hfile : IsRegular oneFile tarball [0x1F, 0x8B] := ⟨1, rfl, rfl⟩
  have hsends : Sends {} aggregatorUrl := by decide +kernel
  have hclassified : Classified .put aggregatorUrl tarball [0x1F, 0x8B] (.response ⟨409⟩ [])
      (uploadFile oneFile refusing {} .put aggregatorUrl tarball) :=
    (uploadFile_classified rfl hfile rfl).1 hsends
  exact ⟨⟨_, hclassified.received, by decide +kernel, by decide +kernel, rfl⟩,
    hclassified.unexpected _ _ rfl (by decide) (by decide)⟩

end Handoff.Upload
