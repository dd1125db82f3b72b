import Handoff.FileSystem.Change
import Handoff.Proofs.Config.Schema
import Handoff.Proofs.Except
import Handoff.Proofs.Text.Utf8

/-!
Where each setting of the effective configuration comes from: the override if there is one, else the file
if it has the setting, else the default.
-/

namespace Handoff.Config

open Toml

/-! What the items of a document say. -/

def stringOf? : Item → Option String
  | .scalar (.text cs) _ => some (String.ofList cs)
  | _ => none

def pathOf? : Item → Option Path
  | .scalar (.text cs) _ => some ⟨Text.encode cs⟩
  | _ => none

def naturalOf? : Item → Option Nat
  | .scalar (.integer n) _ => if n < 0 then none else some n.toNat
  | _ => none

def booleanOf? : Item → Option Bool
  | .scalar (.boolean b) _ => some b
  | _ => none

def isEmpty : Item → Bool
  | .table _ [] _ => true
  | .array [] _ => true
  | .tables [] _ => true
  | _ => false

/-- The name of a choice: a text, or the only key of a table, with nothing under it. -/
def choiceOf? : Item → Option (List Char)
  | .scalar (.text cs) _ => some cs
  | .table _ [(key, payload)] _ => if isEmpty payload then some key.name else none
  | _ => none

def oneOf? {α : Type} (first second : String × α) (item : Item) : Option α :=
  (choiceOf? item).bind fun name =>
    if name = first.1.toList then some first.2
    else if name = second.1.toList then some second.2
    else none

def methodOf? : Item → Option UploadMethod := oneOf? ("put", .put) ("post", .post)

def formatOf? : Item → Option LogFormat := oneOf? ("pretty", .pretty) ("json", .json)

/-- The settings that a document has. -/
structure Given where
  waitfile : Option Path := none
  pollIntervalMs : Option Nat := none
  url : Option String := none
  plugin : Option String := none
  node : Option String := none
  method : Option UploadMethod := none
  gracePeriodSecs : Option Nat := none
  connectTimeoutSecs : Option Nat := none
  requestTimeoutSecs : Option Nat := none
  caCertPath : Option Path := none
  clientCertPath : Option Path := none
  clientKeyPath : Option Path := none
  logLevel : Option String := none
  logFormat : Option LogFormat := none
  metricsEnabled : Option Bool := none
  metricsAddress : Option String := none
deriving DecidableEq, Repr

/-- The entry of a name says the value; there is none if and only if there is no value. -/
def Gives {α : Type} (entries : Entries) (name : String) (read : Item → Option α) (value : Option α) : Prop :=
  (entries.get? name.toList).map read = value.map some

/-- The entries of a section. A section that is missing has none. -/
def sectionEntries (entries : Entries) (name : String) : Entries :=
  match entries.get? name.toList with
  | some (.table _ inner _) => inner
  | _ => []

def isTable : Item → Bool
  | .table _ _ _ => true
  | _ => false

/-- A document has the sections as tables, and in them just these settings, each of its type. -/
structure Given.Of (g : Given) (entries : Entries) : Prop where
  tables : ∀ name ∈ sections.map Slot.name, (entries.get? name.toList).all isTable = true
  waitfile : Gives (sectionEntries entries "waitfile") "path" pathOf? g.waitfile
  pollIntervalMs : Gives (sectionEntries entries "waitfile") "poll_interval_ms" naturalOf? g.pollIntervalMs
  url : Gives (sectionEntries entries "aggregator") "url" stringOf? g.url
  plugin : Gives (sectionEntries entries "aggregator") "plugin" stringOf? g.plugin
  node : Gives (sectionEntries entries "aggregator") "node" stringOf? g.node
  method : Gives (sectionEntries entries "aggregator") "method" methodOf? g.method
  gracePeriodSecs : Gives (sectionEntries entries "shutdown") "grace_period_secs" naturalOf? g.gracePeriodSecs
  connectTimeoutSecs :
    Gives (sectionEntries entries "transmit") "connect_timeout_secs" naturalOf? g.connectTimeoutSecs
  requestTimeoutSecs :
    Gives (sectionEntries entries "transmit") "request_timeout_secs" naturalOf? g.requestTimeoutSecs
  caCertPath : Gives (sectionEntries entries "transmit") "ca_cert_path" pathOf? g.caCertPath
  clientCertPath : Gives (sectionEntries entries "transmit") "client_cert_path" pathOf? g.clientCertPath
  clientKeyPath : Gives (sectionEntries entries "transmit") "client_key_path" pathOf? g.clientKeyPath
  logLevel : Gives (sectionEntries entries "observability") "log_level" stringOf? g.logLevel
  logFormat : Gives (sectionEntries entries "observability") "log_format" formatOf? g.logFormat
  metricsEnabled : Gives (sectionEntries entries "observability") "metrics_enabled" booleanOf? g.metricsEnabled
  metricsAddress : Gives (sectionEntries entries "observability") "metrics_address" stringOf? g.metricsAddress

instance {α : Type} [DecidableEq α] (entries : Entries) (name : String) (read : Item → Option α)
    (value : Option α) : Decidable (Gives entries name read value) :=
  inferInstanceAs (Decidable ((entries.get? name.toList).map read = value.map some))

instance (g : Given) (entries : Entries) : Decidable (g.Of entries) :=
  let aggregator := sectionEntries entries "aggregator"
  let transmit := sectionEntries entries "transmit"
  let observability := sectionEntries entries "observability"
  decidable_of_iff ((∀ name ∈ sections.map Slot.name, (entries.get? name.toList).all isTable = true) ∧
    (Gives (sectionEntries entries "waitfile") "path" pathOf? g.waitfile ∧
      Gives (sectionEntries entries "waitfile") "poll_interval_ms" naturalOf? g.pollIntervalMs) ∧
    (Gives aggregator "url" stringOf? g.url ∧ Gives aggregator "plugin" stringOf? g.plugin ∧
      Gives aggregator "node" stringOf? g.node ∧ Gives aggregator "method" methodOf? g.method) ∧
    Gives (sectionEntries entries "shutdown") "grace_period_secs" naturalOf? g.gracePeriodSecs ∧
    (Gives transmit "connect_timeout_secs" naturalOf? g.connectTimeoutSecs ∧
      Gives transmit "request_timeout_secs" naturalOf? g.requestTimeoutSecs ∧
      Gives transmit "ca_cert_path" pathOf? g.caCertPath ∧
      Gives transmit "client_cert_path" pathOf? g.clientCertPath ∧
      Gives transmit "client_key_path" pathOf? g.clientKeyPath) ∧
    Gives observability "log_level" stringOf? g.logLevel ∧
      Gives observability "log_format" formatOf? g.logFormat ∧
      Gives observability "metrics_enabled" booleanOf? g.metricsEnabled ∧
      Gives observability "metrics_address" stringOf? g.metricsAddress)
    ⟨fun ⟨h, ⟨h1, h2⟩, ⟨h3, h4, h5, h6⟩, h7, ⟨h8, h9, h10, h11, h12⟩, h13, h14, h15, h16⟩ =>
        ⟨h, h1, h2, h3, h4, h5, h6, h7, h8, h9, h10, h11, h12, h13, h14, h15, h16⟩,
      fun ⟨h, h1, h2, h3, h4, h5, h6, h7, h8, h9, h10, h11, h12, h13, h14, h15, h16⟩ =>
        ⟨h, ⟨h1, h2⟩, ⟨h3, h4, h5, h6⟩, h7, ⟨h8, h9, h10, h11, h12⟩, h13, h14, h15, h16⟩⟩

/-- Where the settings of a file come from; without a file there are none. -/
inductive Source (fs : FileSystem) : Option Path → Given → Prop
  | none : Source fs none {}
  | file {path : Path} {text : List Char} {entries : Entries} {g : Given} (read : fs.readText path = .ok text)
      (parses : Toml.read? text = some entries) (given : g.Of entries) : Source fs (some path) g

/-- Each setting from the first layer that has it: the overrides, the file, the defaults. An override of the
metrics address also turns the metrics on. -/
def layered (o : Overrides) (g : Given) : Config where
  waitfile :=
    { path := (o.waitfile.or g.waitfile).getD ({} : WaitfileSection).path
      pollIntervalMs := (o.pollIntervalMs.or g.pollIntervalMs).getD ({} : WaitfileSection).pollIntervalMs }
  aggregator :=
    { url := (o.url.or g.url).getD ({} : AggregatorSection).url
      plugin := o.plugin.or g.plugin
      node := o.node.or g.node
      method := g.method.getD ({} : AggregatorSection).method }
  shutdown :=
    { gracePeriodSecs := (o.gracePeriodSecs.or g.gracePeriodSecs).getD ({} : ShutdownSection).gracePeriodSecs }
  transmit :=
    { connectTimeoutSecs := g.connectTimeoutSecs.getD ({} : TransmitSection).connectTimeoutSecs
      requestTimeoutSecs := g.requestTimeoutSecs.getD ({} : TransmitSection).requestTimeoutSecs
      caCertPath := g.caCertPath
      clientCertPath := g.clientCertPath
      clientKeyPath := g.clientKeyPath }
  observability :=
    { logLevel := (o.logLevel.or g.logLevel).getD ({} : ObservabilitySection).logLevel
      logFormat := (o.logFormat.or g.logFormat).getD ({} : ObservabilitySection).logFormat
      metricsEnabled := o.metricsAddress.isSome ||
        g.metricsEnabled.getD ({} : ObservabilitySection).metricsEnabled
      metricsAddress :=
        (o.metricsAddress.or g.metricsAddress).getD ({} : ObservabilitySection).metricsAddress }

section
variable {item : Item} {entries : Entries}

/-! What an item says is what it is read as. -/

theorem decodeString_of {s : String} (h : stringOf? item = some s) : decodeString item = .ok s := by
  unfold stringOf? at h
  split at h
  · cases h
    rfl
  · cases h

theorem decodePath_of {path : Path} (h : pathOf? item = some path) : decodePath item = .ok path := by
  unfold pathOf? at h
  split at h
  · cases h
    rfl
  · cases h

theorem decodeNat_of {n : Nat} (h : naturalOf? item = some n) : decodeNat item = .ok n := by
  unfold naturalOf? at h
  split at h
  · rename_i value span
    split at h
    · cases h
    · rename_i hsign
      cases h
      rw [decodeNat, if_neg hsign]
  · cases h

theorem decodeBool_of {b : Bool} (h : booleanOf? item = some b) : decodeBool item = .ok b := by
  unfold booleanOf? at h
  split at h
  · cases h
    rfl
  · cases h

theorem checkEmpty_of (h : isEmpty item = true) : checkEmpty item = .ok () := by
  unfold isEmpty at h
  split at h
  · rfl
  · rfl
  · rfl
  · cases h

theorem choose_of {α : Type} {first second : String × α} {name : List Char} {x : α}
    (h : (if name = first.1.toList then some first.2
      else if name = second.1.toList then some second.2 else none) = some x) (span : Option Span) :
    choose first second name span = .ok x := by
  unfold choose
  split at h
  · rename_i hfirst
    cases h
    rw [if_pos hfirst]
  · rename_i hfirst
    split at h
    · rename_i hsecond
      cases h
      rw [if_neg hfirst, if_pos hsecond]
    · cases h

theorem decodeChoice_of {α : Type} {first second : String × α} {x : α}
    (h : oneOf? first second item = some x) :
    decodeChoice first second item = .ok x := by
  obtain ⟨name, hname, hx⟩ := Option.bind_eq_some_iff.mp h
  unfold choiceOf? at hname
  split at hname
  · cases hname
    exact choose_of hx _
  · split at hname
    · rename_i hempty
      cases hname
      rw [decodeChoice]
      simp only [choose_of hx, checkEmpty_of hempty]
    · cases hname
  · cases hname

theorem Gives.slot {α : Type} {slot : Slot α} {read : Item → Option slot.Value} {value : Option slot.Value}
    (h : Gives entries slot.name read value)
    (hread : ∀ item v, read item = some v → slot.decode item = .ok v) :
    slot.Readable entries ∧ slot.given entries = value := by
  unfold Gives at h
  cases hget : entries.get? slot.name.toList with
  | none =>
    rw [hget] at h
    have hnone : value = none := Option.map_eq_none_iff.mp h.symm
    refine ⟨fun item hitem => ?_, ?_⟩
    · rw [hget] at hitem
      cases hitem
    · rw [Slot.given, hget, hnone]
      rfl
  | some item =>
    rw [hget] at h
    obtain ⟨v, rfl, hv⟩ := Option.map_eq_some_iff.mp h.symm
    have hdecode := hread item v hv.symm
    refine ⟨fun other hother => ?_, ?_⟩
    · rw [hget] at hother
      cases hother
      exact ⟨v, hdecode⟩
    · rw [Slot.given, hget, Option.bind_some, hdecode]
      rfl

theorem map_id_getD {α : Type} (value : Option α) (d : α) : (value.map id).getD d = value.getD d := by
  rw [Option.map_id, id]

theorem map_some_getD {α : Type} (value : Option α) : (value.map some).getD none = value := by
  cases value <;> rfl

/-! Sections. -/

theorem waitfile_given {path : Option Path} {interval : Option Nat} (hdistinct : entries.names.Nodup)
    (hpath : Gives entries "path" pathOf? path)
    (hinterval : Gives entries "poll_interval_ms" naturalOf? interval) :
    decodeEntries (Slot.set waitfileSlots) {} entries = .ok {
      path := path.getD ({} : WaitfileSection).path
      pollIntervalMs := interval.getD ({} : WaitfileSection).pollIntervalMs } := by
  have hreadable : ∀ slot ∈ waitfileSlots, slot.Readable entries := by
    simp only [waitfileSlots, List.forall_mem_cons]
    exact ⟨(Gives.slot hpath fun _ _ => decodePath_of).1, (Gives.slot hinterval fun _ _ => decodeNat_of).1,
      List.forall_mem_nil _⟩
  obtain ⟨s, hs, hfields⟩ := waitfileSlots_independent.decodeEntries_fields hdistinct hreadable {}
  simp only [waitfileSlots, List.forall_mem_cons] at hfields
  obtain ⟨hfirst, hsecond, _⟩ := hfields
  replace hfirst := hfirst path (Gives.slot hpath fun _ _ => decodePath_of).2
  replace hsecond := hsecond interval (Gives.slot hinterval fun _ _ => decodeNat_of).2
  rw [map_id_getD] at hfirst hsecond
  rw [hs, ← hfirst, ← hsecond]

theorem aggregator_given {url plugin node : Option String} {method : Option UploadMethod}
    (hdistinct : entries.names.Nodup) (hurl : Gives entries "url" stringOf? url)
    (hplugin : Gives entries "plugin" stringOf? plugin) (hnode : Gives entries "node" stringOf? node)
    (hmethod : Gives entries "method" methodOf? method) :
    decodeEntries (Slot.set aggregatorSlots) {} entries = .ok {
      url := url.getD ({} : AggregatorSection).url
      plugin, node
      method := method.getD ({} : AggregatorSection).method } := by
  have hreadable : ∀ slot ∈ aggregatorSlots, slot.Readable entries := by
    simp only [aggregatorSlots, List.forall_mem_cons]
    exact ⟨(Gives.slot hurl fun _ _ => decodeString_of).1, (Gives.slot hplugin fun _ _ => decodeString_of).1,
      (Gives.slot hnode fun _ _ => decodeString_of).1, (Gives.slot hmethod fun _ _ => decodeChoice_of).1,
      List.forall_mem_nil _⟩
  obtain ⟨s, hs, hfields⟩ := aggregatorSlots_independent.decodeEntries_fields hdistinct hreadable {}
  simp only [aggregatorSlots, List.forall_mem_cons] at hfields
  obtain ⟨hfirst, hsecond, hthird, hfourth, _⟩ := hfields
  replace hfirst := hfirst url (Gives.slot hurl fun _ _ => decodeString_of).2
  replace hsecond := hsecond plugin (Gives.slot hplugin fun _ _ => decodeString_of).2
  replace hthird := hthird node (Gives.slot hnode fun _ _ => decodeString_of).2
  replace hfourth := hfourth method (Gives.slot hmethod fun _ _ => decodeChoice_of).2
  rw [map_id_getD] at hfirst hfourth
  rw [map_some_getD] at hsecond hthird
  rw [hs, ← hfirst, ← hsecond, ← hthird, ← hfourth]

theorem shutdown_given {period : Option Nat} (hdistinct : entries.names.Nodup)
    (hperiod : Gives entries "grace_period_secs" naturalOf? period) :
    decodeEntries (Slot.set shutdownSlots) {} entries = .ok {
      gracePeriodSecs := period.getD ({} : ShutdownSection).gracePeriodSecs } := by
  have hreadable : ∀ slot ∈ shutdownSlots, slot.Readable entries := by
    simp only [shutdownSlots, List.forall_mem_cons]
    exact ⟨(Gives.slot hperiod fun _ _ => decodeNat_of).1, List.forall_mem_nil _⟩
  obtain ⟨s, hs, hfields⟩ := shutdownSlots_independent.decodeEntries_fields hdistinct hreadable {}
  simp only [shutdownSlots, List.forall_mem_cons] at hfields
  have hfirst := hfields.1 period (Gives.slot hperiod fun _ _ => decodeNat_of).2
  rw [map_id_getD] at hfirst
  rw [hs, ← hfirst]

theorem transmit_given {connect request : Option Nat} {ca cert key : Option Path}
    (hdistinct : entries.names.Nodup) (hconnect : Gives entries "connect_timeout_secs" naturalOf? connect)
    (hrequest : Gives entries "request_timeout_secs" naturalOf? request)
    (hca : Gives entries "ca_cert_path" pathOf? ca) (hcert : Gives entries "client_cert_path" pathOf? cert)
    (hkey : Gives entries "client_key_path" pathOf? key) :
    decodeEntries (Slot.set transmitSlots) {} entries = .ok {
      connectTimeoutSecs := connect.getD ({} : TransmitSection).connectTimeoutSecs
      requestTimeoutSecs := request.getD ({} : TransmitSection).requestTimeoutSecs
      caCertPath := ca, clientCertPath := cert, clientKeyPath := key } := by
  have hreadable : ∀ slot ∈ transmitSlots, slot.Readable entries := by
    simp only [transmitSlots, List.forall_mem_cons]
    exact ⟨(Gives.slot hconnect fun _ _ => decodeNat_of).1, (Gives.slot hrequest fun _ _ => decodeNat_of).1,
      (Gives.slot hca fun _ _ => decodePath_of).1, (Gives.slot hcert fun _ _ => decodePath_of).1,
      (Gives.slot hkey fun _ _ => decodePath_of).1, List.forall_mem_nil _⟩
  obtain ⟨s, hs, hfields⟩ := transmitSlots_independent.decodeEntries_fields hdistinct hreadable {}
  simp only [transmitSlots, List.forall_mem_cons] at hfields
  obtain ⟨hfirst, hsecond, hthird, hfourth, hfifth, _⟩ := hfields
  replace hfirst := hfirst connect (Gives.slot hconnect fun _ _ => decodeNat_of).2
  replace hsecond := hsecond request (Gives.slot hrequest fun _ _ => decodeNat_of).2
  replace hthird := hthird ca (Gives.slot hca fun _ _ => decodePath_of).2
  replace hfourth := hfourth cert (Gives.slot hcert fun _ _ => decodePath_of).2
  replace hfifth := hfifth key (Gives.slot hkey fun _ _ => decodePath_of).2
  rw [map_id_getD] at hfirst hsecond
  rw [map_some_getD] at hthird hfourth hfifth
  rw [hs, ← hfirst, ← hsecond, ← hthird, ← hfourth, ← hfifth]

theorem observability_given {level : Option String} {format : Option LogFormat} {enabled : Option Bool}
    {address : Option String} (hdistinct : entries.names.Nodup)
    (hlevel : Gives entries "log_level" stringOf? level)
    (hformat : Gives entries "log_format" formatOf? format)
    (henabled : Gives entries "metrics_enabled" booleanOf? enabled)
    (haddress : Gives entries "metrics_address" stringOf? address) :
    decodeEntries (Slot.set observabilitySlots) {} entries = .ok {
      logLevel := level.getD ({} : ObservabilitySection).logLevel
      logFormat := format.getD ({} : ObservabilitySection).logFormat
      metricsEnabled := enabled.getD ({} : ObservabilitySection).metricsEnabled
      metricsAddress := address.getD ({} : ObservabilitySection).metricsAddress } := by
  have hreadable : ∀ slot ∈ observabilitySlots, slot.Readable entries := by
    simp only [observabilitySlots, List.forall_mem_cons]
    exact ⟨(Gives.slot hlevel fun _ _ => decodeString_of).1, (Gives.slot hformat fun _ _ => decodeChoice_of).1,
      (Gives.slot henabled fun _ _ => decodeBool_of).1, (Gives.slot haddress fun _ _ => decodeString_of).1,
      List.forall_mem_nil _⟩
  obtain ⟨s, hs, hfields⟩ := observabilitySlots_independent.decodeEntries_fields hdistinct hreadable {}
  simp only [observabilitySlots, List.forall_mem_cons] at hfields
  obtain ⟨hfirst, hsecond, hthird, hfourth, _⟩ := hfields
  replace hfirst := hfirst level (Gives.slot hlevel fun _ _ => decodeString_of).2
  replace hsecond := hsecond format (Gives.slot hformat fun _ _ => decodeChoice_of).2
  replace hthird := hthird enabled (Gives.slot henabled fun _ _ => decodeBool_of).2
  replace hfourth := hfourth address (Gives.slot haddress fun _ _ => decodeString_of).2
  rw [map_id_getD] at hfirst hsecond hthird hfourth
  rw [hs, ← hfirst, ← hsecond, ← hthird, ← hfourth]

/-- A section is read from its table, or from nothing if it is missing. -/
theorem section_given {α : Type} {name expected : String} {slots : List (Slot α)} {start s : α}
    {put : α → Config → Config} {get : Config → α}
    (htable : (entries.get? name.toList).all isTable = true)
    (h : decodeEntries (Slot.set slots) start (sectionEntries entries name) = .ok s) :
    (sectionSlot name expected slots start put get).Readable entries ∧
      ((sectionSlot name expected slots start put get).given entries).getD start = s := by
  unfold sectionEntries at h
  unfold Slot.Readable Slot.given sectionSlot
  dsimp only
  cases hget : entries.get? name.toList with
  | none =>
    rw [hget] at h
    cases h
    exact ⟨nofun, rfl⟩
  | some item =>
    rw [hget] at h htable
    cases item with
    | table kind inner span =>
      have hdecode :
          decodeSection (Slot.set slots) (slots.map Slot.name) expected start (.table kind inner span) =
          .ok s := h
      refine ⟨?_, ?_⟩
      · rintro _ ⟨⟩
        exact ⟨s, hdecode⟩
      · rw [Option.bind_some, hdecode]
        rfl
    | scalar => cases htable
    | array => cases htable
    | tables => cases htable

theorem sectionEntries_distinct (h : entries.Sound) (name : String) :
    (sectionEntries entries name).names.Nodup := by
  unfold sectionEntries
  split
  · rename_i hget
    exact (h.get hget).content.distinct
  · exact List.nodup_nil

/-- A document is read as the settings that it has, over the defaults. -/
theorem decode_given {g : Given} (h : entries.Sound) (hg : g.Of entries) :
    decode entries = .ok (layered {} g) := by
  have hdistinct := sectionEntries_distinct h
  have hwaitfile := waitfile_given (hdistinct "waitfile") hg.waitfile hg.pollIntervalMs
  have haggregator := aggregator_given (hdistinct "aggregator") hg.url hg.plugin hg.node hg.method
  have hshutdown := shutdown_given (hdistinct "shutdown") hg.gracePeriodSecs
  have htransmit := transmit_given (hdistinct "transmit") hg.connectTimeoutSecs hg.requestTimeoutSecs
    hg.caCertPath hg.clientCertPath hg.clientKeyPath
  have hobservability := observability_given (hdistinct "observability") hg.logLevel hg.logFormat
    hg.metricsEnabled hg.metricsAddress
  have htables := hg.tables
  simp only [sections, sectionSlot, List.map_cons, List.forall_mem_cons] at htables
  obtain ⟨htable1, htable2, htable3, htable4, htable5, _⟩ := htables
  have hreadable : ∀ slot ∈ sections, slot.Readable entries := by
    simp only [sections, List.forall_mem_cons]
    exact ⟨(section_given htable1 hwaitfile).1, (section_given htable2 haggregator).1,
      (section_given htable3 hshutdown).1, (section_given htable4 htransmit).1,
      (section_given htable5 hobservability).1, List.forall_mem_nil _⟩
  obtain ⟨c, hc, hfields⟩ := sections_independent.decodeEntries_fields h.distinct hreadable {}
  simp only [sections, List.forall_mem_cons] at hfields
  obtain ⟨hfirst, hsecond, hthird, hfourth, hfifth, _⟩ := hfields
  replace hfirst := (hfirst _ rfl).trans (map_id_getD _ _) |>.trans (section_given htable1 hwaitfile).2
  replace hsecond := (hsecond _ rfl).trans (map_id_getD _ _) |>.trans (section_given htable2 haggregator).2
  replace hthird := (hthird _ rfl).trans (map_id_getD _ _) |>.trans (section_given htable3 hshutdown).2
  replace hfourth := (hfourth _ rfl).trans (map_id_getD _ _) |>.trans (section_given htable4 htransmit).2
  replace hfifth := (hfifth _ rfl).trans (map_id_getD _ _) |>.trans (section_given htable5 hobservability).2
  rw [decode, setSection_eq, hc]
  obtain ⟨w, a, s, t, o⟩ := c
  cases hfirst
  cases hsecond
  cases hthird
  cases hfourth
  cases hfifth
  rfl

/-- Overrides are a layer above the file. -/
theorem apply_layered (o : Overrides) (g : Given) : o.apply (layered {} g) = layered o g := by
  simp [Overrides.apply, layered, Option.getD_or]

end

/-- The configuration that is checked takes each setting from the first layer that has it, and is the
effective one if it passes the checks; if not, its issues are told, all of them. -/
theorem resolve_layers {fs : FileSystem} {path : Option Path} {g : Given} (h : Source fs path g)
    (o : Overrides) :
    (∃ c, ofFile fs path = .ok c ∧ o.apply c = layered o g) ∧
      resolve fs path o =
        if (layered o g).issues = [] then .ok (layered o g) else .error (.invalid (layered o g).issues) := by
  have hfile : ofFile fs path = .ok (layered {} g) := by
    cases h with
    | none => rfl
    | file read parses given =>
      have hdecode := decode_given (read?_sound parses) given
      simp only [ofFile, read, Config.parse, parses, hdecode]
  refine ⟨⟨layered {} g, hfile, apply_layered o g⟩, ?_⟩
  simp only [resolve, hfile, apply_layered, validate]

/-- A document in which each way to write a table occurs, with keys that have no meaning, and with a URL of
a scheme that results cannot be uploaded by. -/
def mixedText : List Char :=
  ["waitfile.poll_interval_ms = 250",
    "aggregator = \x7b url = 'ftp://agg', method = \x7b post = \x7b\x7d \x7d, spare = [1, 'x'] \x7d",
    "[transmit.proxy]", "host = 'p'",
    "[transmit]", "request_timeout_secs = 0x3c",
    "[observability]", "log_format = 'json'"].flatMap fun line => line.toList ++ ['\n']

def mixedFiles : FileSystem :=
  FileSystem.empty.apply (.write (.ofString "worker.toml") (Text.encode mixedText))

def mixedGiven : Given where
  pollIntervalMs := some 250
  url := some "ftp://agg"
  method := some .post
  requestTimeoutSecs := some 60
  logFormat := some .json

/-- The overrides mend the URL, and turn the metrics on. -/
theorem resolve_layers_mixed :
    let o : Overrides :=
      { url := some "http://agg", plugin := some "e2e", metricsAddress := some "127.0.0.1:9" }
    resolve mixedFiles (some (.ofString "worker.toml")) o = .ok {
      waitfile := { pollIntervalMs := 250 }
      aggregator := { url := "http://agg", plugin := some "e2e", method := .post }
      transmit := { requestTimeoutSecs := 60 }
      observability := { logFormat := .json, metricsEnabled := true, metricsAddress := "127.0.0.1:9" } } := by
  intro o
  have hbytes : mixedFiles.read (.ofString "worker.toml") = .ok (Text.encode mixedText) := by decide +kernel
  have hread : mixedFiles.readText (.ofString "worker.toml") = .ok mixedText := by
    simp only [FileSystem.readText, hbytes, Text.decode_encode]
  have hgiven : (Toml.read? mixedText).any (fun entries => mixedGiven.Of entries) = true := by
    decide +kernel
  obtain ⟨entries, hparses, hof⟩ := (Option.any_eq_true _ _).mp hgiven
  have hsource : Source mixedFiles (some (.ofString "worker.toml")) mixedGiven :=
    .file hread hparses (of_decide_eq_true hof)
  have hlayers := (resolve_layers hsource o).2
  have hvalid : (layered o mixedGiven).issues = [] := by decide +kernel
  rw [if_pos hvalid] at hlayers
  exact hlayers

end Handoff.Config
