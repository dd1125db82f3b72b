import Handoff.Gather.Basic

/-!
The log entries of gathering results.
-/

namespace Handoff.Gather

/-- Seconds of a time in milliseconds, as a double. -/
def seconds (ms : Nat) : Decimal.Binary64 :=
  let whole := Decimal.Binary64.ofRatio (ms / 1000) 1
  let part := Decimal.Binary64.ofRatio (ms % 1000 * 1000000) 1000000000
  ((whole.bind fun a => part.bind fun b => a.add b)).getD ⟨0, 0⟩

def entry (level : Log.Level) (message : String) (fields : List (String × Log.Value)) : Log.Entry :=
  ⟨level, .gather, message, fields⟩

def waitingEntry (s : Settings) : Log.Entry :=
  entry .info "Waiting for waitfile" [("waitfile", .text s.waitfile.shown)]

def detectedEntry (resultFile : Handoff.Path) : Log.Entry :=
  entry .info "Detected done file, transmitting result file" [("result_file", .text resultFile.shown)]

def unreadableEntry (s : Settings) (cause : FileError) : Log.Entry :=
  entry .debug "Waitfile not readable yet"
    [("waitfile", .text s.waitfile.shown), ("error", .text cause.message)]

def changeEntry (source target : Phase) : Log.Entry :=
  entry .debug "Worker state change" [("from", .text source.name), ("to", .text target.name)]

def requestedEntry (s : Settings) : Log.Entry :=
  entry .info "Shutdown requested, still waiting for plugin results"
    [("grace_period_secs", .real (seconds s.gracePeriod))]

def closedEntry : Log.Entry := entry .debug "Shutdown channel closed, no grace period will start" []

def timedOutEntry : Log.Entry :=
  entry .info "Did not receive plugin results in time. Shutting down worker." []

def unopenedEntry (failure : Failure) : Log.Entry :=
  entry .error "Could not open result file" [("error", .text failure.message)]

def transmittingEntry (s : Settings) (a : Artifact) : Log.Entry :=
  entry .info "Transmitting result file"
    [("url", .text s.url.shown), ("content_type", .text (ContentType.label a.contentType)),
      ("bytes", .natural a.size)]

def transmittedEntry (s : Settings) : Log.Entry :=
  entry .info "Results transmitted" [("url", .text s.url.shown)]

def failedEntry (s : Settings) (cause : Upload.Error) : Log.Entry :=
  entry .error "Results transmission failed"
    [("url", .text s.url.shown), ("error", .text cause.message)]

/-- The entry that tells that a result file was opened. -/
def openedEntry (a : Artifact) : Log.Entry :=
  ⟨.debug, .artifact, "Opened result file",
    [("result_file", .text a.path.shown), ("content_type", .text (ContentType.label a.contentType)),
      ("bytes", .natural a.size)]⟩

end Handoff.Gather
