import Handoff.Gather.Entries
import Handoff.Tls.Client
import Handoff.Upload.Exchange

/-!
Uploading one file: the client is set up, the file is opened, and then it is sent.
-/

namespace Handoff.Upload

/-- An upload of a file as it went: the result, the request if one was received, and the log. -/
structure FileUpload where
  result : Except Gather.Failure Unit
  received : Option Request
  log : List Log.Entry

/-- Uploads the file that a path leads to. The first failure ends it. -/
def uploadFile (fs : FileSystem) (network : Network) (s : TransmitSection) (method : UploadMethod)
    (url : Url) (path : Handoff.Path) : FileUpload :=
  match Tls.setUp fs s with
  | (.error cause, told) => ⟨.error (.upload cause), none, told⟩
  | (.ok (), told) =>
    match Artifact.openFile fs path with
    | .error cause => ⟨.error (.unopened path cause), none, told⟩
    | .ok artifact =>
      let call : Gather.Call := ⟨url, path, artifact.contentType, artifact.size, artifact.readAll fs⟩
      let e := exchange network s method call
      let log := told ++ [Gather.openedEntry artifact, sendingEntry method call] ++
        closingEntries network e url
      match e.result with
      | .ok () => ⟨.ok (), e.received, log⟩
      | .error cause => ⟨.error (.upload cause), e.received, log⟩

end Handoff.Upload
