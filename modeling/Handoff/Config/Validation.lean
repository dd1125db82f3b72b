import Handoff.Config.Basic
import Handoff.SocketAddress
import Handoff.Text.Blank
import Handoff.Url.Parser

/-!
The checks of a configuration. Each check looks at one section, and all that fail are told, in a fixed
order.
-/

namespace Handoff.Config

/-- What can be wrong with a configuration. -/
inductive Issue
  | emptyWaitfilePath
  | zeroPollInterval
  | unsupportedScheme (scheme : String)
  | invalidUrl (url : String) (cause : Url.ParseError)
  | missingPlugin
  | zeroConnectTimeout
  | zeroRequestTimeout
  | unpairedClientCertificate
  | invalidMetricsAddress (address : String)
deriving DecidableEq, Repr

def Issue.field : Issue → String
  | emptyWaitfilePath => "waitfile.path"
  | zeroPollInterval => "waitfile.poll_interval_ms"
  | unsupportedScheme _ => "aggregator.url"
  | invalidUrl _ _ => "aggregator.url"
  | missingPlugin => "aggregator.plugin"
  | zeroConnectTimeout => "transmit.connect_timeout_secs"
  | zeroRequestTimeout => "transmit.request_timeout_secs"
  | unpairedClientCertificate => "transmit.client_cert_path"
  | invalidMetricsAddress _ => "observability.metrics_address"

def Issue.message : Issue → String
  | emptyWaitfilePath => "must not be empty"
  | zeroPollInterval => "must be greater than zero"
  | unsupportedScheme scheme => "unsupported scheme '" ++ scheme ++ "'"
  | invalidUrl url cause => "invalid URL '" ++ url ++ "': " ++ cause.message
  | missingPlugin => "required when aggregator.url has no results path"
  | zeroConnectTimeout => "must be greater than zero"
  | zeroRequestTimeout => "must be greater than zero"
  | unpairedClientCertificate => "client_cert_path and client_key_path must be set together"
  | invalidMetricsAddress address => "invalid socket address '" ++ address ++ "'"

def issueIf (condition : Bool) (issue : Issue) : List Issue := if condition then [issue] else []

def waitfileIssues (s : WaitfileSection) : List Issue :=
  issueIf (s.path.bytes = []) .emptyWaitfilePath ++ issueIf (s.pollIntervalMs == 0) .zeroPollInterval

/-- Whether a scheme is one that results can be uploaded by. -/
def isUploadScheme (scheme : List Char) : Bool := scheme = "http".toList || scheme = "https".toList

/-- Whether the path of a URL is a route of its own. -/
def hasRoute (url : Url) : Bool := url.path.text ≠ ['/'] && url.path.text ≠ []

/-- Whether a plugin is named, by more than blanks. -/
def hasPlugin (s : AggregatorSection) : Bool := s.plugin.any (fun p => Text.trim p.toList ≠ [])

def aggregatorIssues (s : AggregatorSection) : List Issue :=
  match Url.parse s.url.toList with
  | .ok url =>
    issueIf (!isUploadScheme url.scheme) (.unsupportedScheme (String.ofList url.scheme)) ++
      issueIf (!hasRoute url && !hasPlugin s) .missingPlugin
  | .error cause => [.invalidUrl s.url cause]

def transmitIssues (s : TransmitSection) : List Issue :=
  issueIf (s.connectTimeoutSecs == 0) .zeroConnectTimeout ++
    issueIf (s.requestTimeoutSecs == 0) .zeroRequestTimeout ++
    issueIf (s.clientCertPath.isSome != s.clientKeyPath.isSome) .unpairedClientCertificate

/-- The issues of the observability section. The address matters only if metrics are served. -/
def observabilityIssues (s : ObservabilitySection) : List Issue :=
  issueIf (s.metricsEnabled && (SocketAddress.ofText? s.metricsAddress.toList).isNone)
    (.invalidMetricsAddress s.metricsAddress)

def issues (c : Config) : List Issue :=
  waitfileIssues c.waitfile ++ aggregatorIssues c.aggregator ++ transmitIssues c.transmit ++
    observabilityIssues c.observability

end Handoff.Config
