import Handoff.Proofs.Config.Slots

/-!
The slots of the five sections, and the sections as slots of the configuration.
-/

namespace Handoff.Config

open Toml

def waitfileSlots : List (Slot WaitfileSection) :=
  [⟨"path", decodePath, fun path s => { s with path }, WaitfileSection.path, id⟩,
    ⟨"poll_interval_ms", decodeNat, fun n s => { s with pollIntervalMs := n },
      WaitfileSection.pollIntervalMs, id⟩]

def aggregatorSlots : List (Slot AggregatorSection) :=
  [⟨"url", decodeString, fun url s => { s with url }, AggregatorSection.url, id⟩,
    ⟨"plugin", decodeString, fun name s => { s with plugin := some name }, AggregatorSection.plugin, some⟩,
    ⟨"node", decodeString, fun name s => { s with node := some name }, AggregatorSection.node, some⟩,
    ⟨"method", decodeMethod, fun method s => { s with method }, AggregatorSection.method, id⟩]

def shutdownSlots : List (Slot ShutdownSection) :=
  [⟨"grace_period_secs", decodeNat, fun n s => { s with gracePeriodSecs := n },
    ShutdownSection.gracePeriodSecs, id⟩]

def transmitSlots : List (Slot TransmitSection) :=
  [⟨"connect_timeout_secs", decodeNat, fun n s => { s with connectTimeoutSecs := n },
      TransmitSection.connectTimeoutSecs, id⟩,
    ⟨"request_timeout_secs", decodeNat, fun n s => { s with requestTimeoutSecs := n },
      TransmitSection.requestTimeoutSecs, id⟩,
    ⟨"ca_cert_path", decodePath, fun path s => { s with caCertPath := some path },
      TransmitSection.caCertPath, some⟩,
    ⟨"client_cert_path", decodePath, fun path s => { s with clientCertPath := some path },
      TransmitSection.clientCertPath, some⟩,
    ⟨"client_key_path", decodePath, fun path s => { s with clientKeyPath := some path },
      TransmitSection.clientKeyPath, some⟩]

def observabilitySlots : List (Slot ObservabilitySection) :=
  [⟨"log_level", decodeString, fun level s => { s with logLevel := level }, ObservabilitySection.logLevel, id⟩,
    ⟨"log_format", decodeFormat, fun format s => { s with logFormat := format },
      ObservabilitySection.logFormat, id⟩,
    ⟨"metrics_enabled", decodeBool, fun b s => { s with metricsEnabled := b },
      ObservabilitySection.metricsEnabled, id⟩,
    ⟨"metrics_address", decodeString, fun address s => { s with metricsAddress := address },
      ObservabilitySection.metricsAddress, id⟩]

/-- A section as a slot of the configuration. -/
def sectionSlot {α : Type} (name expected : String) (slots : List (Slot α)) (start : α)
    (put : α → Config → Config) (get : Config → α) : Slot Config :=
  ⟨name, decodeSection (Slot.set slots) (slots.map Slot.name) expected start, put, get, id⟩

def sections : List (Slot Config) :=
  [sectionSlot "waitfile" "struct WaitfileConfig" waitfileSlots {} (fun s c => { c with waitfile := s })
      Config.waitfile,
    sectionSlot "aggregator" "struct AggregatorConfig" aggregatorSlots {}
      (fun s c => { c with aggregator := s }) Config.aggregator,
    sectionSlot "shutdown" "struct ShutdownConfig" shutdownSlots {} (fun s c => { c with shutdown := s })
      Config.shutdown,
    sectionSlot "transmit" "struct TransmitConfig" transmitSlots {} (fun s c => { c with transmit := s })
      Config.transmit,
    sectionSlot "observability" "struct ObservabilityConfig" observabilitySlots {}
      (fun s c => { c with observability := s }) Config.observability]

/-- The setters are those of the slots. -/
theorem setSection_eq : setSection = Slot.set sections := rfl

theorem waitfileSlots_independent : Slot.Independent waitfileSlots := by
  constructor
  · decide
  · simp [waitfileSlots]
  · simp [waitfileSlots]

theorem aggregatorSlots_independent : Slot.Independent aggregatorSlots := by
  constructor
  · decide
  · simp [aggregatorSlots]
  · simp [aggregatorSlots]

theorem shutdownSlots_independent : Slot.Independent shutdownSlots := by
  constructor
  · decide
  · simp [shutdownSlots]
  · simp [shutdownSlots]

theorem transmitSlots_independent : Slot.Independent transmitSlots := by
  constructor
  · decide
  · simp [transmitSlots]
  · simp [transmitSlots]

theorem observabilitySlots_independent : Slot.Independent observabilitySlots := by
  constructor
  · decide
  · simp [observabilitySlots]
  · simp [observabilitySlots]

theorem sections_independent : Slot.Independent sections := by
  constructor
  · decide
  · simp [sections, sectionSlot]
  · simp [sections, sectionSlot]

end Handoff.Config
