import Handoff.FileError
import Handoff.Path
import Handoff.Upload.Status
import Handoff.Url.Basic

/-!
Why results could not be uploaded.
-/

namespace Handoff.Upload

/-- Why a request got no answer. -/
inductive RequestFault
  -- The URL is none that a request can be sent to.
  | unusableUrl
  -- The connection failed, or broke before the answer.
  | noAnswer
deriving DecidableEq, Repr

/-- The cause of a failed upload. -/
inductive Error
  -- The request got no answer; `asked` is the URL without its user part.
  | request (url : Url) (fault : RequestFault) (asked : Url)
  -- The answer was no success.
  | unexpectedStatus (url : Url) (status : Status) (body : String)
  -- The TLS material is not what a client can use.
  | client
  -- A file with TLS material cannot be read.
  | tlsMaterial (path : Handoff.Path) (cause : FileError)
  -- The aggregator's URL cannot be read.
  | invalidUrl (cause : Url.ParseError)
  -- The aggregator's URL has no path to extend.
  | noRoute (url : Url)
  -- A route needs the name of a plugin.
  | missingPlugin (url : Url)
deriving DecidableEq, Repr

def RequestFault.message (asked : Url) : RequestFault → String
  | unusableUrl => "builder error for url (" ++ asked.shown ++ ")"
  | noAnswer => "error sending request for url (" ++ asked.shown ++ ")"

def Error.message : Error → String
  | request url fault asked =>
    "error encountered dialing aggregator at " ++ url.shown ++ ": " ++ fault.message asked
  | unexpectedStatus url status body =>
    "got a " ++ status.shown ++ " response when sending results to " ++ url.shown ++ ": " ++ body
  | client => "failed to build HTTP client: builder error"
  | tlsMaterial path cause => "failed to read TLS material " ++ path.shown ++ ": " ++ cause.message
  | invalidUrl cause => "invalid aggregator URL: " ++ cause.message
  | noRoute url => "aggregator URL " ++ url.shown ++ " cannot carry a results route"
  | missingPlugin url => "no plugin name to build a results route under " ++ url.shown

end Handoff.Upload
