import Handoff.Config.Encode
import Handoff.Config.Load
import Handoff.Proofs.Text.Utf8
import Handoff.Proofs.Toml.Document

/-!
A configuration written as a document and read back. Each field is written as settings that fill in the
same field when they are read, so that the fields of a section add up to the section and the sections to
the configuration.
-/

namespace Handoff.Config

open Toml

/-- A layer of a document: the settings of a section, or the sections. -/
structure Layer (β : Type) where
  holdable : List Char × β → Prop
  holds : List Char × β → Key × Item → Prop

def Layer.settings : Layer Setting := ⟨fun s => s.2.Fits, Holds⟩

def Layer.sections : Layer (List (List Char × Setting)) := ⟨IsSection, HoldsSection⟩

variable {α β : Type} {layer : Layer β} {set : Setter α} {x y z : α}

/-- What is written stands under some of the names, in their order, and makes `y` of `x` when it is read. -/
structure Restores (layer : Layer β) (set : Setter α) (names : List (List Char)) (x y : α)
    (written : List (List Char × β)) : Prop where
  names : (written.map Prod.fst).Sublist names
  holdable : ∀ w ∈ written, layer.holdable w
  reads : ∀ entries, List.Forall₂ layer.holds written entries → decodeEntries set x entries = .ok y

theorem Restores.nil {names : List (List Char)} : Restores layer set names x x [] where
  names := List.nil_sublist names
  holdable := fun _ hw => absurd hw List.not_mem_nil
  reads := by
    intro entries h
    cases h
    rfl

theorem Restores.append {names more : List (List Char)} {a b : List (List Char × β)}
    (ha : Restores layer set names x y a) (hb : Restores layer set more y z b) :
    Restores layer set (names ++ more) x z (a ++ b) where
  names := by
    rw [List.map_append]
    exact ha.names.append hb.names
  holdable := by
    intro w hw
    rcases List.mem_append.mp hw with hw | hw
    · exact ha.holdable w hw
    · exact hb.holdable w hw
  reads := by
    intro entries h
    have hfirst := List.forall₂_take a.length h
    have hrest := List.forall₂_drop a.length h
    rw [List.take_left] at hfirst
    rw [List.drop_left] at hrest
    have hx := ha.reads _ hfirst
    have hy := hb.reads _ hrest
    rw [decodeEntries] at hx hy ⊢
    rw [← List.take_append_drop a.length entries, List.foldlM_append, hx]
    exact hy

theorem Restores.single {name : List Char} {value : β} (hvalue : layer.holdable (name, value))
    (h : ∀ key item, layer.holds (name, value) (key, item) → set key.name item x = .ok y) :
    Restores layer set [name] x y [(name, value)] where
  names := List.Sublist.refl _
  holdable := by
    intro w hw
    rw [List.mem_singleton.mp hw]
    exact hvalue
  reads := by
    intro entries hall
    obtain ⟨⟨key, item⟩, rest, hholds, hrest, rfl⟩ := List.forall₂_cons_left_iff.mp hall
    cases hrest
    rw [decodeEntries, List.foldlM_cons]
    simp only [h key item hholds]
    rfl

/-- A part of a configuration can be written if and only if it fits, and what is written restores it. -/
structure RoundTrips (layer : Layer β) (set : Setter α) (names : List (List Char)) (fits : Prop)
    (x y : α) (part : Except WriteError (List (List Char × β))) : Prop where
  ok_iff : (∃ written, part = .ok written) ↔ fits
  restores : ∀ written, part = .ok written → Restores layer set names x y written

/-- The settings of all parts of a section. -/
def joined (parts : List (Except WriteError (List (List Char × β)))) :
    Except WriteError (List (List Char × β)) :=
  (parts.mapM id).map List.flatten

section
variable {names more : List (List Char)} {fits fit : Prop}

theorem RoundTrips.of_ok {written : List (List Char × β)} (h : Restores layer set names x y written) :
    RoundTrips layer set names True x y (.ok written) where
  ok_iff := ⟨fun _ => trivial, fun _ => ⟨written, rfl⟩⟩
  restores := by
    rintro _ ⟨⟩
    exact h

theorem RoundTrips.append {a b : Except WriteError (List (List Char × β))}
    (ha : RoundTrips layer set names fits x y a) (hb : RoundTrips layer set more fit y z b) :
    RoundTrips layer set (names ++ more) (fits ∧ fit) x z
      (a.bind fun first => b.map (first ++ ·)) where
  ok_iff := by
    rw [← ha.ok_iff, ← hb.ok_iff]
    cases a with
    | error e => simp [Except.bind]
    | ok first =>
      cases b with
      | error e => simp [Except.bind, Except.map]
      | ok rest => simp [Except.bind, Except.map]
  restores := by
    intro written h
    cases a with
    | error e => cases h
    | ok first =>
      cases b with
      | error e => cases h
      | ok rest =>
        cases h
        exact (ha.restores first rfl).append (hb.restores rest rfl)

theorem RoundTrips.of_fits {part : Except WriteError (List (List Char × β))} (hfits : fits ↔ fit)
    (h : RoundTrips layer set names fits x y part) : RoundTrips layer set names fit x y part where
  ok_iff := h.ok_iff.trans hfits
  restores := h.restores

theorem RoundTrips.parts_nil : RoundTrips layer set [] True x x (joined []) :=
  .of_ok .nil

theorem RoundTrips.parts_cons {part : Except WriteError (List (List Char × β))}
    {parts : List (Except WriteError (List (List Char × β)))}
    (hpart : RoundTrips layer set names fits x y part)
    (hparts : RoundTrips layer set more fit y z (joined parts)) :
    RoundTrips layer set (names ++ more) (fits ∧ fit) x z (joined (part :: parts)) := by
  have heq : joined (part :: parts) = part.bind fun first => (joined parts).map (first ++ ·) := by
    rw [joined, joined, List.mapM_cons]
    cases part with
    | error e => rfl
    | ok first => cases parts.mapM id <;> rfl
  rw [heq]
  exact hpart.append hparts

theorem RoundTrips.sections_nil :
    RoundTrips layer set [] True x x (([] : List (Except WriteError (List Char × β))).mapM id) :=
  .of_ok .nil

theorem RoundTrips.sections_cons {part : Except WriteError (List Char × β)}
    {parts : List (Except WriteError (List Char × β))}
    (hpart : RoundTrips layer set names fits x y (part.map ([·])))
    (hparts : RoundTrips layer set more fit y z (parts.mapM id)) :
    RoundTrips layer set (names ++ more) (fits ∧ fit) x z ((part :: parts).mapM id) := by
  have heq : (part :: parts).mapM id =
      (part.map ([·])).bind fun first => (parts.mapM id).map (first ++ ·) := by
    rw [List.mapM_cons]
    cases part with
    | error e => rfl
    | ok first => cases parts.mapM id <;> rfl
  rw [heq]
  exact hpart.append hparts

end

/-! Parts of a section. -/

/-- A path whose bytes are the UTF-8 form of a text. -/
def IsText (p : Path) : Prop := ∃ s, p = Path.ofString s

section
variable {name : String}

theorem Restores.setting {value : Setting} (hfits : value.Fits)
    (h : ∀ span, set name.toList (.scalar value.scalar span) x = .ok y) :
    Restores .settings set [name.toList] x y [(name.toList, value)] := by
  apply Restores.single hfits
  rintro key item ⟨hkey, span, rfl⟩
  rw [hkey]
  exact h span

theorem encodeNat_roundTrips (fill : Nat → α)
    (h : ∀ (n : Nat) span, set name.toList (.scalar (.integer n) span) x = .ok (fill n)) (n : Nat) :
    RoundTrips .settings set [name.toList] (n < Nat.pow 2 63) x (fill n) (encodeNat name n) := by
  by_cases hn : n < Nat.pow 2 63
  · have hok : encodeNat name n = .ok [(name.toList, .integer n)] := if_pos hn
    rw [hok]
    exact .of_fits (iff_true_intro hn).symm (.of_ok (.setting hn (h n)))
  · have herror : encodeNat name n = .error .numberTooLarge := if_neg hn
    rw [herror]
    constructor
    · simp [hn]
    · rintro _ ⟨⟩

theorem encodeString_roundTrips (fill : String → α)
    (h : ∀ cs span, set name.toList (.scalar (.text cs) span) x = .ok (fill (String.ofList cs)))
    (s : String) : RoundTrips .settings set [name.toList] True x (fill s) (.ok (encodeString name s)) := by
  have hs (span : Span) : set name.toList (.scalar (.text s.toList) span) x = .ok (fill s) := by
    rw [h, String.ofList_toList]
  exact .of_ok (.setting trivial hs)

theorem encodeString?_roundTrips (fill : Option String → α)
    (h : ∀ cs span, set name.toList (.scalar (.text cs) span) (fill none) =
      .ok (fill (some (String.ofList cs)))) (s : Option String) :
    RoundTrips .settings set [name.toList] True (fill none) (fill s) (.ok (encodeString? name s)) := by
  cases s with
  | none => exact .of_ok .nil
  | some s => exact encodeString_roundTrips (fun s => fill (some s)) h s

theorem encodePath_roundTrips (fill : Path → α)
    (h : ∀ cs span, set name.toList (.scalar (.text cs) span) x = .ok (fill ⟨Text.encode cs⟩))
    {p : Path} (hp : IsText p) :
    RoundTrips .settings set [name.toList] True x (fill p) (encodePath name p) := by
  obtain ⟨s, rfl⟩ := hp
  have hok : encodePath name (Path.ofString s) = .ok [(name.toList, .text s.toList)] := by
    rw [encodePath, Path.ofString, Text.decode_encode]
  rw [hok]
  exact .of_ok (.setting trivial (h s.toList))

theorem encodePath?_roundTrips (fill : Option Path → α)
    (h : ∀ cs span, set name.toList (.scalar (.text cs) span) (fill none) =
      .ok (fill (some ⟨Text.encode cs⟩))) {p : Option Path} (hp : ∀ q ∈ p, IsText q) :
    RoundTrips .settings set [name.toList] True (fill none) (fill p) (encodePath? name p) := by
  cases p with
  | none => exact .of_ok .nil
  | some p => exact encodePath_roundTrips (fun p => fill (some p)) h (hp p rfl)

end

/-! Sections. -/

theorem waitfile_roundTrips (w : WaitfileSection) (h : IsText w.path) :
    RoundTrips .settings setWaitfile ["path".toList, "poll_interval_ms".toList]
      (w.pollIntervalMs < Nat.pow 2 63) {} w
      (joined [encodePath "path" w.path, encodeNat "poll_interval_ms" w.pollIntervalMs]) := by
  have hpath : RoundTrips .settings setWaitfile ["path".toList] True {} { path := w.path }
      (encodePath "path" w.path) :=
    encodePath_roundTrips (fun path => ({ path } : WaitfileSection)) (fun _ _ => rfl) h
  have hinterval : RoundTrips .settings setWaitfile ["poll_interval_ms".toList]
      (w.pollIntervalMs < Nat.pow 2 63) { path := w.path } w
      (encodeNat "poll_interval_ms" w.pollIntervalMs) :=
    encodeNat_roundTrips (fun n => { w with pollIntervalMs := n }) (fun _ _ => rfl) _
  exact .of_fits (by simp) (.parts_cons hpath (.parts_cons hinterval .parts_nil))

theorem aggregator_roundTrips (a : AggregatorSection) :
    RoundTrips .settings setAggregator ["url".toList, "plugin".toList, "node".toList, "method".toList]
      True {} a
      (joined [.ok (encodeString "url" a.url), .ok (encodeString? "plugin" a.plugin),
        .ok (encodeString? "node" a.node), .ok (encodeString "method" a.method.name)]) := by
  obtain ⟨url, plugin, node, method⟩ := a
  have hurl : RoundTrips .settings setAggregator ["url".toList] True {} ⟨url, none, none, .put⟩
      (.ok (encodeString "url" url)) :=
    encodeString_roundTrips (AggregatorSection.mk · none none .put) (fun _ _ => rfl) url
  have hplugin : RoundTrips .settings setAggregator ["plugin".toList] True ⟨url, none, none, .put⟩
      ⟨url, plugin, none, .put⟩ (.ok (encodeString? "plugin" plugin)) :=
    encodeString?_roundTrips (AggregatorSection.mk url · none .put) (fun _ _ => rfl) plugin
  have hnode : RoundTrips .settings setAggregator ["node".toList] True ⟨url, plugin, none, .put⟩
      ⟨url, plugin, node, .put⟩ (.ok (encodeString? "node" node)) :=
    encodeString?_roundTrips (AggregatorSection.mk url plugin · .put) (fun _ _ => rfl) node
  have hmethod : RoundTrips .settings setAggregator ["method".toList] True ⟨url, plugin, node, .put⟩
      ⟨url, plugin, node, method⟩ (.ok (encodeString "method" method.name)) := by
    cases method with
    | put => exact .of_ok (.setting trivial fun _ => rfl)
    | post => exact .of_ok (.setting trivial fun _ => rfl)
  exact .of_fits (by simp)
    (.parts_cons hurl (.parts_cons hplugin (.parts_cons hnode (.parts_cons hmethod .parts_nil))))

theorem shutdown_roundTrips (s : ShutdownSection) :
    RoundTrips .settings setShutdown ["grace_period_secs".toList] (s.gracePeriodSecs < Nat.pow 2 63) {} s
      (joined [encodeNat "grace_period_secs" s.gracePeriodSecs]) := by
  have hgrace : RoundTrips .settings setShutdown ["grace_period_secs".toList]
      (s.gracePeriodSecs < Nat.pow 2 63) {} s (encodeNat "grace_period_secs" s.gracePeriodSecs) :=
    encodeNat_roundTrips ShutdownSection.mk (fun _ _ => rfl) _
  exact .of_fits (by simp) (.parts_cons hgrace .parts_nil)

theorem transmit_roundTrips (t : TransmitSection) (hca : ∀ p ∈ t.caCertPath, IsText p)
    (hcert : ∀ p ∈ t.clientCertPath, IsText p) (hkey : ∀ p ∈ t.clientKeyPath, IsText p) :
    RoundTrips .settings setTransmit ["connect_timeout_secs".toList, "request_timeout_secs".toList,
        "ca_cert_path".toList, "client_cert_path".toList, "client_key_path".toList]
      (t.connectTimeoutSecs < Nat.pow 2 63 ∧ t.requestTimeoutSecs < Nat.pow 2 63) {} t
      (joined [encodeNat "connect_timeout_secs" t.connectTimeoutSecs,
        encodeNat "request_timeout_secs" t.requestTimeoutSecs, encodePath? "ca_cert_path" t.caCertPath,
        encodePath? "client_cert_path" t.clientCertPath, encodePath? "client_key_path" t.clientKeyPath]) := by
  obtain ⟨connect, request, ca, cert, key⟩ := t
  have hconnect : RoundTrips .settings setTransmit ["connect_timeout_secs".toList]
      (connect < Nat.pow 2 63) {} ⟨connect, 300, none, none, none⟩
      (encodeNat "connect_timeout_secs" connect) :=
    encodeNat_roundTrips (TransmitSection.mk · 300 none none none) (fun _ _ => rfl) connect
  have hrequest : RoundTrips .settings setTransmit ["request_timeout_secs".toList]
      (request < Nat.pow 2 63) ⟨connect, 300, none, none, none⟩ ⟨connect, request, none, none, none⟩
      (encodeNat "request_timeout_secs" request) :=
    encodeNat_roundTrips (TransmitSection.mk connect · none none none) (fun _ _ => rfl) request
  have hca : RoundTrips .settings setTransmit ["ca_cert_path".toList] True
      ⟨connect, request, none, none, none⟩ ⟨connect, request, ca, none, none⟩
      (encodePath? "ca_cert_path" ca) :=
    encodePath?_roundTrips (TransmitSection.mk connect request · none none) (fun _ _ => rfl) hca
  have hcert : RoundTrips .settings setTransmit ["client_cert_path".toList] True
      ⟨connect, request, ca, none, none⟩ ⟨connect, request, ca, cert, none⟩
      (encodePath? "client_cert_path" cert) :=
    encodePath?_roundTrips (TransmitSection.mk connect request ca · none) (fun _ _ => rfl) hcert
  have hkey : RoundTrips .settings setTransmit ["client_key_path".toList] True
      ⟨connect, request, ca, cert, none⟩ ⟨connect, request, ca, cert, key⟩
      (encodePath? "client_key_path" key) :=
    encodePath?_roundTrips (TransmitSection.mk connect request ca cert ·) (fun _ _ => rfl) hkey
  exact .of_fits (by simp) (.parts_cons hconnect (.parts_cons hrequest
    (.parts_cons hca (.parts_cons hcert (.parts_cons hkey .parts_nil)))))

theorem observability_roundTrips (o : ObservabilitySection) :
    RoundTrips .settings setObservability ["log_level".toList, "log_format".toList,
        "metrics_enabled".toList, "metrics_address".toList] True {} o
      (joined [.ok (encodeString "log_level" o.logLevel), .ok (encodeString "log_format" o.logFormat.name),
        .ok [("metrics_enabled".toList, .boolean o.metricsEnabled)],
        .ok (encodeString "metrics_address" o.metricsAddress)]) := by
  obtain ⟨level, format, enabled, address⟩ := o
  have hlevel : RoundTrips .settings setObservability ["log_level".toList] True {}
      ⟨level, .pretty, false, "0.0.0.0:9090"⟩ (.ok (encodeString "log_level" level)) :=
    encodeString_roundTrips (ObservabilitySection.mk · .pretty false "0.0.0.0:9090") (fun _ _ => rfl) level
  have hformat : RoundTrips .settings setObservability ["log_format".toList] True
      ⟨level, .pretty, false, "0.0.0.0:9090"⟩ ⟨level, format, false, "0.0.0.0:9090"⟩
      (.ok (encodeString "log_format" format.name)) := by
    cases format with
    | pretty => exact .of_ok (.setting trivial fun _ => rfl)
    | json => exact .of_ok (.setting trivial fun _ => rfl)
  have henabled : RoundTrips .settings setObservability ["metrics_enabled".toList] True
      ⟨level, format, false, "0.0.0.0:9090"⟩ ⟨level, format, enabled, "0.0.0.0:9090"⟩
      (.ok [("metrics_enabled".toList, .boolean enabled)]) :=
    .of_ok (.setting trivial fun _ => rfl)
  have haddress : RoundTrips .settings setObservability ["metrics_address".toList] True
      ⟨level, format, enabled, "0.0.0.0:9090"⟩ ⟨level, format, enabled, address⟩
      (.ok (encodeString "metrics_address" address)) :=
    encodeString_roundTrips (ObservabilitySection.mk level format enabled ·) (fun _ _ => rfl) address
  exact .of_fits (by simp) (.parts_cons hlevel (.parts_cons hformat
    (.parts_cons henabled (.parts_cons haddress .parts_nil))))

/-! The whole configuration. -/

theorem Restores.isSection {name : List Char} {names : List (List Char)}
    {settings : List (List Char × Setting)} (h : Restores .settings set names x y settings)
    (hbare : ∀ n ∈ name :: names, IsBareName n) (hdistinct : names.Nodup) :
    IsSection (name, settings) where
  name := hbare _ List.mem_cons_self
  names := fun _ hs => hbare _ (List.mem_cons_of_mem _ (h.names.subset (List.mem_map_of_mem hs)))
  fits := h.holdable
  distinct := h.names.nodup hdistinct

section
variable {names : List (List Char)} {fits : Prop} {start : α}
  {parts : List (Except WriteError (List (List Char × Setting)))}

theorem encodeSection_roundTrips (name : String) (fill : α → Config)
    (h : ∀ entries span, setSection name.toList (.table .header entries span) (fill start) =
      (decodeEntries set start entries).map fill)
    (hbare : ∀ n ∈ name.toList :: names, IsBareName n) (hdistinct : names.Nodup)
    (hparts : RoundTrips .settings set names fits start x (joined parts)) :
    RoundTrips .sections setSection [name.toList] fits (fill start) (fill x)
      ((encodeSection name parts).map ([·])) := by
  have heq : (encodeSection name parts).map ([·]) =
      (joined parts).map fun settings => [(name.toList, settings)] := by
    rw [encodeSection, joined]
    cases parts.mapM id <;> rfl
  rw [heq]
  obtain ⟨hok, hrestores⟩ := hparts
  cases hjoined : joined parts with
  | error e =>
    rw [hjoined] at hok
    constructor
    · rw [← hok]
      simp [Except.map]
    · rintro _ ⟨⟩
  | ok settings =>
    have hsettings := hrestores settings hjoined
    refine .of_fits (iff_of_true trivial (hok.mp ⟨settings, hjoined⟩)) (.of_ok ?_)
    apply Restores.single (hsettings.isSection hbare hdistinct)
    rintro key item ⟨hkey, entries, span, rfl, hall⟩
    rw [hkey, h, hsettings.reads entries hall]
    rfl

end

/-- The paths of a configuration. -/
def paths (c : Config) : List Path :=
  c.waitfile.path :: (c.transmit.caCertPath.toList ++ c.transmit.clientCertPath.toList ++
    c.transmit.clientKeyPath.toList)

/-- The numbers of a configuration. -/
def numbers (c : Config) : List Nat :=
  [c.waitfile.pollIntervalMs, c.shutdown.gracePeriodSecs, c.transmit.connectTimeoutSecs,
    c.transmit.requestTimeoutSecs]

theorem encode_roundTrips {c : Config} (h : ∀ p ∈ c.paths, IsText p) :
    RoundTrips .sections setSection ["waitfile".toList, "aggregator".toList, "shutdown".toList,
      "transmit".toList, "observability".toList] (∀ n ∈ c.numbers, n < Nat.pow 2 63) {} c (encode c) := by
  obtain ⟨w, a, s, t, o⟩ := c
  obtain ⟨hpath, hca, hcert, hkey⟩ : IsText w.path ∧ (∀ p ∈ t.caCertPath, IsText p) ∧
      (∀ p ∈ t.clientCertPath, IsText p) ∧ ∀ p ∈ t.clientKeyPath, IsText p := by
    simpa [paths, or_imp, forall_and] using h
  have hwaitfile := encodeSection_roundTrips "waitfile" (Config.mk · {} {} {} {}) (fun _ _ => rfl)
    (by decide) (by decide) (waitfile_roundTrips w hpath)
  have haggregator := encodeSection_roundTrips "aggregator" (Config.mk w · {} {} {}) (fun _ _ => rfl)
    (by decide) (by decide) (aggregator_roundTrips a)
  have hshutdown := encodeSection_roundTrips "shutdown" (Config.mk w a · {} {}) (fun _ _ => rfl)
    (by decide) (by decide) (shutdown_roundTrips s)
  have htransmit := encodeSection_roundTrips "transmit" (Config.mk w a s · {}) (fun _ _ => rfl)
    (by decide) (by decide) (transmit_roundTrips t hca hcert hkey)
  have hobservability := encodeSection_roundTrips "observability" (Config.mk w a s t ·) (fun _ _ => rfl)
    (by decide) (by decide) (observability_roundTrips o)
  refine .of_fits ?_ (.sections_cons hwaitfile (.sections_cons haggregator (.sections_cons hshutdown
    (.sections_cons htransmit (.sections_cons hobservability .sections_nil)))))
  simp [numbers]

/-- Sections that restore a configuration are a document that reads as the configuration. -/
theorem Restores.parse {names : List (List Char)} {c : Config} {sections : Sections}
    (h : Restores .sections setSection names {} c sections) (hdistinct : names.Nodup) :
    parse (write sections) = .ok c := by
  obtain ⟨entries, hread, hholds⟩ := read?_write h.holdable (h.names.nodup hdistinct)
  have hdecode : decode entries = .ok c := h.reads entries hholds
  rw [Config.parse, hread]
  simp only [hdecode]

/-- They also do below a comment, and with an empty line behind them. -/
theorem Restores.parse_commented {names : List (List Char)} {c : Config} {sections : Sections}
    (h : Restores .sections setSection names {} c sections) (hdistinct : names.Nodup) {comment : List Char}
    (hcomment : ∀ c ∈ comment, isPlain c = true) :
    Config.parse ('#' :: comment ++ '\n' :: (write sections ++ ['\n'])) = .ok c := by
  obtain ⟨entries, hread, hholds⟩ := read?_commented h.holdable (h.names.nodup hdistinct) hcomment
  have hdecode : decode entries = .ok c := h.reads entries hholds
  rw [Config.parse, hread]
  simp only [hdecode]

/-- A configuration whose paths are UTF-8 can be written if and only if each of its numbers fits into 64
bits with a sign, and what is written reads back as the configuration. The plain and the pretty layout of a
document differ in arrays alone, of which a configuration has none, so that the text is that of both. -/
theorem parse_text {c : Config} (h : ∀ p ∈ c.paths, IsText p) :
    ((∃ text, c.text = .ok text) ↔ ∀ n ∈ c.numbers, n ≤ Nat.pow 2 63 - 1) ∧
      ∀ text, c.text = .ok text → parse text.toList = .ok c := by
  have hbound (n : Nat) : n < Nat.pow 2 63 ↔ n ≤ Nat.pow 2 63 - 1 :=
    Nat.lt_iff_le_pred (Nat.pow_pos (by decide))
  have hencode := encode_roundTrips h
  simp only [hbound] at hencode
  obtain ⟨hok, hrestores⟩ := hencode
  constructor
  · rw [← hok, text]
    cases encode c with
    | error e => simp [Except.map]
    | ok sections => simp [Except.map]
  · intro written hwritten
    rw [text] at hwritten
    cases hsections : encode c with
    | error e =>
      rw [hsections] at hwritten
      cases hwritten
    | ok sections =>
      rw [hsections] at hwritten
      cases hwritten
      rw [String.toList_ofList]
      exact (hrestores sections hsections).parse (by decide)

theorem parse_text_quotes :
    let c : Config := {
      aggregator := { url := "it's \"\"\"\r\n", plugin := some "", node := some "back\\slash" }
      transmit :=
        { requestTimeoutSecs := Nat.pow 2 63 - 1, caCertPath := some (Path.ofString "/tls/ca.pem") } }
    ∃ text, c.text = .ok text ∧ parse text.toList = .ok c := by
  intro c
  have hpaths : ∀ p ∈ c.paths, IsText p := by
    intro p hp
    simp only [c, paths, Option.toList, List.mem_cons, List.mem_append, List.not_mem_nil, or_false] at hp
    rcases hp with rfl | rfl
    · exact ⟨_, rfl⟩
    · exact ⟨_, rfl⟩
  obtain ⟨hok, hparse⟩ := parse_text hpaths
  obtain ⟨text, htext⟩ := hok.mpr (by decide)
  exact ⟨text, htext, hparse text htext⟩

end Handoff.Config
