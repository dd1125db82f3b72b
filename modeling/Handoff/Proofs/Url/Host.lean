import Handoff.Proofs.Url.Address
import Handoff.Proofs.Url.Domain
import Handoff.Proofs.Url.Percent
import Handoff.Url.Host

/-!
Hosts of the web read back from their text: domains in ASCII and addresses. Only a domain with a label that
is too long to be read does not.
-/

namespace Handoff.Url

theorem percentDecode_plain {cs : List Char} (h : '%' ∉ cs) : percentDecode cs = Text.encode cs := by
  have hkept : percentEncode (· ≠ '%') cs = cs :=
    percentEncode_of_kept fun c hc => decide_eq_true fun heq => h (heq ▸ hc)
  have hread := @percentDecode_percentEncode (· ≠ '%') (by decide) cs
  rwa [hkept] at hread

theorem Domain.ofBytes?_plain {cs : List Char} (h : '%' ∉ cs) :
    Domain.ofBytes? (percentDecode cs) = Domain.toAscii? cs := by
  rw [percentDecode_plain h, Domain.ofBytes?, Text.decode_encode]

namespace Host

/-- The host of a URL of the web: a domain in ASCII that is no number, or an address. -/
inductive IsWeb : Host → Prop
  | name {cs name : List Char} (ascii : Domain.toAscii? cs = some name) (ne : name ≠ [])
    (number : Ipv4.endsInNumber name = false) : IsWeb (.name name)
  | ipv4 (ip : Ipv4) : IsWeb (.ipv4 ip)
  | ipv6 (ip : Ipv6) : IsWeb (.ipv6 ip)

theorem isWeb_of_bracketed {cs : List Char} {host : Host} (h : bracketed cs = .ok host) : host.IsWeb := by
  unfold bracketed at h
  split at h
  · split at h
    · obtain rfl := Except.ok.inj h
      exact .ipv6 _
    · cases h
  · cases h

theorem isWeb_of_ofText {cs : List Char} {host : Host} (h : ofText cs = .ok host) : host.IsWeb := by
  unfold ofText at h
  split at h
  · exact isWeb_of_bracketed h
  · split at h
    · cases h
    · cases h
    · rename_i domain hne hdomain
      split at h
      · split at h
        · obtain rfl := Except.ok.inj h
          exact .ipv4 _
        · cases h
      · rename_i hnumber
        obtain rfl := Except.ok.inj h
        unfold Domain.ofBytes? at hdomain
        split at hdomain
        · exact .name hdomain (fun hnil => hne (by rw [hnil])) (Bool.eq_false_iff.mpr hnumber)
        · cases hdomain

/-- Whether the labels of a host are not too long to be read. -/
def isReadable : Host → Bool
  | .name cs => Domain.hasReadableLabels cs
  | _ => true

/-! The characters of a host. -/

/-- The characters of a host: those that a domain may hold, and those around and within an IPv6 address. -/
def isHostChar (c : Char) : Bool := !(Domain.isForbidden c) || [':', '[', ']'].contains c

theorem forall_mem_text {host : Host} (h : host.IsWeb) : ∀ c ∈ host.text, isHostChar c = true := by
  cases h with
  | name ascii _ _ =>
    intro c hc
    rw [isHostChar, Domain.toAscii?_allowed ascii c hc]
    rfl
  | ipv4 ip =>
    have htext : (Host.ipv4 ip).text =
        ['.'].intercalate (ip.octets.map fun o => Text.decimal o.toNat) := ip.text_eq
    rw [htext]
    refine Text.forall_mem_intercalate (x := '.') (by decide) fun part hpart => ?_
    obtain ⟨o, _, rfl⟩ := List.mem_map.mp hpart
    exact Text.forall_mem_toDigits (by decide) (by decide) o.toNat
  | ipv6 ip =>
    have hcolon : isHostChar ':' = true := by decide
    have hgroups (groups : List UInt16) : ∀ c ∈ Ipv6.groupsText groups, isHostChar c = true := by
      refine Text.forall_mem_intercalate (x := ':') hcolon fun part hpart => ?_
      obtain ⟨g, _, rfl⟩ := List.mem_map.mp hpart
      exact Text.forall_mem_toDigits (by decide) (by decide) g.toNat
    have htext : ∀ c ∈ ip.text, isHostChar c = true := by
      rw [Ipv6.text_eq]
      split
      · exact hgroups _
      · rw [List.forall_mem_append, List.forall_mem_cons, List.forall_mem_cons]
        exact ⟨hgroups _, hcolon, hcolon, hgroups _⟩
    rw [text, List.forall_mem_append, List.forall_mem_cons]
    exact ⟨⟨by decide, htext⟩, List.forall_mem_singleton.mpr (by decide)⟩

theorem text_ne_nil {host : Host} (h : host.IsWeb) : host.text ≠ [] := by
  cases h with
  | name _ ne _ => exact ne
  | ipv4 ip =>
    have hdot : '.' ∈ ip.text := by
      rw [Ipv4.text]
      exact List.mem_append_left _ (List.mem_append_left _ (List.mem_append_right _ List.mem_cons_self))
    exact List.ne_nil_of_mem hdot
  | ipv6 ip => exact List.cons_ne_nil _ _

/-! Reading a host again. -/

theorem isDigit_range {c : Char} (h : c.isDigit = true) : 0x30 ≤ c.toNat ∧ c.toNat ≤ 0x39 := by
  obtain ⟨hlow, hhigh⟩ := (Bool.and_eq_true _ _).mp h
  exact ⟨of_decide_eq_true hlow, of_decide_eq_true hhigh⟩

theorem isWritten_of_digits {label : List Char} (h : ∀ c ∈ label, c.isDigit = true) :
    Domain.IsWritten label := by
  refine ⟨Domain.isAscii_iff.mpr fun c hc => ?_, fun c hc => ?_, fun hdot => ?_⟩
  · have hrange := isDigit_range (h c hc)
    omega
  · have hrange := isDigit_range (h c hc)
    exact (Domain.isSettled_ascii (by omega)).mpr (by omega)
  · cases h '.' hdot

theorem toAscii?_ipv4 (ip : Ipv4) : Domain.toAscii? ip.text = some ip.text := by
  have hdigit : ∀ part ∈ ip.octets.map (fun o => Text.decimal o.toNat), ∀ c ∈ part, c.isDigit = true := by
    intro part hpart
    obtain ⟨o, _, rfl⟩ := List.mem_map.mp hpart
    exact Ipv4.isDigit_decimal
  rw [Ipv4.text_eq]
  apply Domain.toAscii?_plain
  · exact List.cons_ne_nil _ _
  · exact fun part hpart => isWritten_of_digits (hdigit part hpart)
  · intro part hpart
    rw [← Bool.not_eq_true, List.isPrefixOf_iff_prefix]
    intro hbegins
    have hmem : 'x' ∈ part := hbegins.subset List.mem_cons_self
    cases hdigit part hpart 'x' hmem
  · rw [List.any_eq_false]
    refine Text.forall_mem_intercalate (x := '.') (P := fun c => ¬ Domain.isForbidden c = true) (by decide) ?_
    intro part hpart
    obtain ⟨o, _, rfl⟩ := List.mem_map.mp hpart
    exact Text.forall_mem_toDigits (by decide) (by decide) o.toNat

/-- A text that is no address in brackets and has no percent sign is a domain, or an address if it
is a number. -/
theorem ofText_plain {cs domain : List Char} (hbracket : '[' ∉ cs) (hpercent : '%' ∉ cs)
    (hdomain : Domain.toAscii? cs = some domain) (hne : domain ≠ []) :
    ofText cs = if Ipv4.endsInNumber domain then
      match Ipv4.ofLoose? domain with
      | some ip => .ok (.ipv4 ip)
      | none => .error .invalidIpv4
    else .ok (.name domain) := by
  unfold ofText
  split
  · exact absurd List.mem_cons_self hbracket
  · rw [Domain.ofBytes?_plain hpercent, hdomain]
    obtain ⟨c, rest, rfl⟩ := List.exists_cons_of_ne_nil hne
    rfl

theorem bracketed_text (ip : Ipv6) : bracketed (ip.text ++ [']']) = .ok (.ipv6 ip) := by
  have hreverse : (ip.text ++ [']']).reverse = ']' :: ip.text.reverse := by simp
  have hread : Ipv6.ofText? ip.text.reverse.reverse = some ip := by
    rw [List.reverse_reverse, Ipv6.ofText?_text]
  rw [bracketed, hreverse]
  simp only [hread]

/-- A host of the web reads back from its text, or not at all if a label of it is too long to be read. -/
theorem ofText_text {host : Host} (h : host.IsWeb) :
    ofText host.text = if host.isReadable then .ok host else .error .invalidDomain := by
  cases h with
  | @name cs domain ascii ne number =>
    have hallowed := Domain.toAscii?_allowed ascii
    have hbracket : '[' ∉ domain := fun hmem => absurd (hallowed _ hmem) (by decide)
    have hpercent : '%' ∉ domain := fun hmem => absurd (hallowed _ hmem) (by decide)
    have hagain := Domain.toAscii?_again ascii
    rw [isReadable, text]
    cases hread : Domain.hasReadableLabels domain with
    | true =>
      rw [hread, if_pos rfl] at hagain
      rw [ofText_plain hbracket hpercent hagain ne, number]
      rfl
    | false =>
      rw [hread, if_neg Bool.false_ne_true] at hagain
      unfold ofText
      split
      · exact absurd List.mem_cons_self hbracket
      · rw [Domain.ofBytes?_plain hpercent, hagain]
        rfl
  | ipv4 ip =>
    have hread :=
      ofText_plain (ip.notMem_text (by decide) (by decide)) (ip.notMem_text (by decide) (by decide))
      (toAscii?_ipv4 ip) (text_ne_nil (.ipv4 ip))
    rw [Ipv4.endsInNumber_text, if_pos rfl, Ipv4.ofLoose?_text] at hread
    exact hread
  | ipv6 ip =>
    exact bracketed_text ip

end Host

end Handoff.Url
