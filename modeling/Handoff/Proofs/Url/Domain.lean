import Handoff.Proofs.Option
import Handoff.Proofs.Text.Split
import Handoff.Proofs.Url.Domain.Mapping
import Handoff.Proofs.Url.Punycode
import Handoff.Url.Domain

/-!
Domain names in ASCII read as themselves. What a name is mapped to is left as it is by mapping, label by
label, and the Punycode of a label reads back as the label; so a name in ASCII stands for the same labels as
the name it was made from, unless the Punycode of one is too long to be read.
-/

namespace Handoff.Url.Domain

section
variable {c : Char} {cs mapped label : List Char}

theorem isAscii_iff : isAscii cs = true ↔ ∀ c ∈ cs, c.toNat < 0x80 := by
  simp only [isAscii, List.all_eq_true, decide_eq_true_eq]

/-! Mapping, applied again. -/

theorem map?_ascii (hascii : isAscii cs = true) (h : ∀ c ∈ cs, IsSettled c.toNat) : map? cs = some cs := by
  have hlower : cs.map Char.toLower = cs.map id :=
    List.map_congr_left fun c hc => toLower_of_settled (isAscii_iff.mp hascii c hc) (h c hc)
  rw [map?, if_pos hascii, hlower, List.map_id]

theorem map?_beyond (hascii : isAscii cs = false) (h : ∀ c ∈ cs, IsSettled c.toNat) :
    map? cs = some (Unicode.compose cs) := by
  have hparts : cs.mapM mapChar? = some (cs.map ([·])) :=
    mapM_eq_some_map fun c hc => mapChar?_of_settled (h c hc)
  rw [map?, hascii, if_neg Bool.false_ne_true, hparts, Option.map_some, ← List.flatMap_def,
    List.flatMap_singleton']

/-- What a name is mapped to: small letters of ASCII, or a composed text. -/
theorem map?_cases (h : map? cs = some mapped) : (∀ c ∈ mapped, IsSettled c.toNat) ∧
    (isAscii mapped = true ∨ ∃ text, mapped = Unicode.compose text) := by
  unfold map? at h
  split at h
  · rename_i hascii
    obtain rfl := Option.some.inj h
    have hlow := isAscii_iff.mp hascii
    constructor
    · intro c hc
      obtain ⟨d, hd, rfl⟩ := List.mem_map.mp hc
      exact isSettled_toLower (hlow d hd)
    · left
      rw [isAscii_iff]
      intro c hc
      obtain ⟨d, hd, rfl⟩ := List.mem_map.mp hc
      exact (toNat_toLower (hlow d hd)).1
  · obtain ⟨parts, hparts, rfl⟩ := Option.map_eq_some_iff.mp h
    refine ⟨isSettled_compose ?_, Or.inr ⟨_, rfl⟩⟩
    intro c hc
    obtain ⟨part, hpart, hmem⟩ := List.mem_flatten.mp hc
    obtain ⟨d, _, hd⟩ := exists_of_mem_mapM hparts part hpart
    exact isSettled_of_mapChar? hd c hmem

/-- Mapping leaves the labels of a mapped name as they are. -/
theorem map?_label (h : map? cs = some mapped) (hlabel : label ∈ Text.splitAt (· == '.') mapped) :
    map? label = some label := by
  obtain ⟨hsettled, hform⟩ := map?_cases h
  have hmem := Text.mem_of_mem_splitAt hlabel
  have hlabelSettled : ∀ c ∈ label, IsSettled c.toNat := fun c hc => hsettled c (hmem c hc)
  cases hascii : isAscii label with
  | true => exact map?_ascii hascii hlabelSettled
  | false =>
    rcases hform with hall | ⟨text, rfl⟩
    · rw [isAscii_iff.mpr fun c hc => isAscii_iff.mp hall c (hmem c hc)] at hascii
      cases hascii
    · rw [map?_beyond hascii hlabelSettled, Unicode.compose_of_mem_splitAt hlabel]

end

/-! Labels. -/

/-- Whether a label is not behind `xn--`, or its Punycode is short enough to be read. -/
def isReadable (label : List Char) : Bool :=
  !(acePrefix.isPrefixOf label) || decide ((label.drop acePrefix.length).length ≤ longestPunycode)

section
variable {label text : List Char}

theorem unicodeLabel?_unreadable (h : isReadable label = false) : unicodeLabel? label = none := by
  obtain ⟨hbegins, hlong⟩ := Bool.or_eq_false_iff.mp h
  rw [unicodeLabel?, if_pos ((Bool.not_eq_false' _).mp hbegins)]
  exact if_neg (of_decide_eq_false hlong)

theorem isAscii_encode (text : List Char) : isAscii (Punycode.encode text) = true :=
  isAscii_iff.mpr
    (Punycode.forall_mem_encode (P := (·.toNat < 0x80)) (fun _ _ hc => hc) (by decide) (by decide))

theorem isAscii_append (cs ds : List Char) : isAscii (cs ++ ds) = (isAscii cs && isAscii ds) := List.all_append

/-- Behind `xn--` stands ASCII. -/
theorem isAscii_of_unicodeLabel? (h : unicodeLabel? label = some text)
    (hbegins : acePrefix.isPrefixOf label = true) : isAscii label = true := by
  rw [unicodeLabel?, if_pos hbegins] at h
  dsimp only at h
  split at h
  · split at h
    · split at h
      · rename_i hboth
        obtain ⟨rest, rfl⟩ := List.isPrefixOf_iff_prefix.mp hbegins
        have hcode := beq_iff_eq.mp ((Bool.and_eq_true _ _).mp hboth).2
        rw [List.drop_left] at hcode
        rw [isAscii_append, ← hcode, isAscii_encode]
        rfl
      · cases h
    · cases h
  · cases h

/-- A label beyond ASCII stands for itself. -/
theorem unicodeLabel?_beyond (hascii : isAscii label = false) (h : unicodeLabel? label = some text) :
    isLabel label = true ∧ text = label := by
  cases hbegins : acePrefix.isPrefixOf label with
  | true =>
    rw [isAscii_of_unicodeLabel? h hbegins] at hascii
    cases hascii
  | false =>
    rw [unicodeLabel?, hbegins, hascii, if_neg Bool.false_ne_true, if_neg Bool.false_ne_true] at h
    split at h
    · rename_i hlabel
      exact ⟨hlabel, (Option.some.inj h).symm⟩
    · cases h

/-- The Punycode of a label stands for the label, if it is short enough to be read. -/
theorem unicodeLabel?_encode (hascii : isAscii label = false) (hmap : map? label = some label)
    (hdot : '.' ∉ label) (hlabel : isLabel label = true)
    (hread : isReadable (acePrefix ++ Punycode.encode label) = true) :
    unicodeLabel? (acePrefix ++ Punycode.encode label) = some label := by
  have hbegins : acePrefix.isPrefixOf (acePrefix ++ Punycode.encode label) = true :=
    List.isPrefixOf_iff_prefix.mpr (List.prefix_append _ _)
  rw [isReadable, hbegins, Bool.not_true, Bool.false_or, List.drop_left] at hread
  have hdecoded : isDecodedLabel label = true := by
    rw [isDecodedLabel, hascii, hmap, hlabel]
    simpa using hdot
  rw [unicodeLabel?, if_pos hbegins, List.drop_left]
  dsimp only
  rw [if_pos (of_decide_eq_true hread), Punycode.decode?_encode]
  dsimp only
  rw [hdecoded, beq_self_eq_true, Bool.true_and, if_pos rfl]

/-- A label in ASCII, and the label it was made from: the same one, or one beyond ASCII. -/
theorem asciiLabel?_cases {ascii : List Char} (h : asciiLabel? label = some ascii) :
    (isAscii label = true ∧ ascii = label) ∨
      (isAscii label = false ∧ ascii = acePrefix ++ Punycode.encode label) := by
  unfold asciiLabel? at h
  split at h
  · rename_i hascii
    obtain ⟨_, _, rfl⟩ := Option.map_eq_some_iff.mp h
    exact Or.inl ⟨hascii, rfl⟩
  · rename_i hascii
    split at h
    · exact Or.inr ⟨Bool.eq_false_iff.mpr hascii, (Option.some.inj h).symm⟩
    · cases h

theorem asciiLabel?_ascii (h : isAscii label = true) :
    asciiLabel? label = (unicodeLabel? label).map (fun _ => label) := if_pos h

/-- A label that a name in ASCII is made of. -/
structure IsWritten (label : List Char) : Prop where
  ascii : isAscii label = true
  settled : ∀ c ∈ label, IsSettled c.toNat
  dot : '.' ∉ label

/-- The Punycode of a settled label, behind `xn--`, is a label of a name in ASCII. -/
theorem isWritten_encode (hsettled : ∀ c ∈ label, IsSettled c.toNat) (hdot : '.' ∉ label) :
    IsWritten (acePrefix ++ Punycode.encode label) := by
  refine ⟨?_, ?_, ?_⟩
  · rw [isAscii_append, isAscii_encode]
    rfl
  · have hsmall (c : Char) (hc : c.toNat < 0x80) (hcapital : ¬ (0x41 ≤ c.toNat ∧ c.toNat ≤ 0x5A)) :
        IsSettled c.toNat := (isSettled_ascii hc).mpr hcapital
    have hdigit : ∀ n < 36, (Punycode.digit n).toNat < 0x80 ∧
        ¬ (0x41 ≤ (Punycode.digit n).toNat ∧ (Punycode.digit n).toNat ≤ 0x5A) := by decide
    have hencode : ∀ c ∈ Punycode.encode label, IsSettled c.toNat := Punycode.forall_mem_encode
      (P := (IsSettled ·.toNat)) (fun c hc _ => hsettled c hc) (hsmall '-' (by decide) (by decide))
      (fun n hn => hsmall _ (hdigit n hn).1 (hdigit n hn).2)
    have hace : acePrefix.all (fun c =>
        decide (c.toNat < 0x80 ∧ ¬ (0x41 ≤ c.toNat ∧ c.toNat ≤ 0x5A))) = true := by
      decide
    intro c hc
    rcases List.mem_append.mp hc with hc | hc
    · obtain ⟨hlow, hcapital⟩ := of_decide_eq_true (List.all_eq_true.mp hace c hc)
      exact hsmall c hlow hcapital
    · exact hencode c hc
  · have hdigit : ∀ n < 36, Punycode.digit n ≠ '.' := by decide
    have hencode : ∀ c ∈ Punycode.encode label, c ≠ '.' := Punycode.forall_mem_encode (P := (· ≠ '.'))
      (fun c hc _ => fun heq => hdot (heq ▸ hc)) (by decide) hdigit
    intro hmem
    rcases List.mem_append.mp hmem with hmem | hmem
    · exact absurd hmem (by decide)
    · exact hencode '.' hmem rfl

/-- A label in ASCII stands for what the label it was made from stands for. -/
theorem unicodeLabel?_again {ascii : List Char} (hmap : map? label = some label) (hdot : '.' ∉ label)
    (ha : asciiLabel? label = some ascii) (ht : unicodeLabel? label = some text) :
    IsWritten ascii ∧ (isReadable ascii = true → unicodeLabel? ascii = some text) := by
  have hsettled := (map?_cases hmap).1
  rcases asciiLabel?_cases ha with ⟨hascii, rfl⟩ | ⟨hascii, rfl⟩
  · -- The label is in ASCII itself.
    exact ⟨⟨hascii, hsettled, hdot⟩, fun _ => ht⟩
  · -- The label is beyond ASCII and written as its Punycode.
    obtain ⟨hlabel, rfl⟩ := unicodeLabel?_beyond hascii ht
    exact ⟨isWritten_encode hsettled hdot, fun hread => unicodeLabel?_encode hascii hmap hdot hlabel hread⟩

end

/-! Names. -/

section
variable {cs name : List Char} {labels ascii texts : List (List Char)}

/-- The labels of a name in ASCII stand for what the labels of the name it was made from stand for. -/
theorem mapM_unicodeLabel?_again (hlabels : ∀ label ∈ labels, map? label = some label ∧ '.' ∉ label)
    (ha : labels.mapM asciiLabel? = some ascii) (ht : labels.mapM unicodeLabel? = some texts) :
    (∀ label ∈ ascii, IsWritten label) ∧
      (ascii.all isReadable = true → ascii.mapM unicodeLabel? = some texts) := by
  induction labels generalizing ascii texts with
  | nil =>
    obtain rfl := Option.some.inj ha
    exact ⟨fun _ hlabel => absurd hlabel List.not_mem_nil, fun _ => ht⟩
  | cons label labels ih =>
    obtain ⟨hfirst, hrest⟩ := List.forall_mem_cons.mp hlabels
    obtain ⟨a, as, hlabel, has, rfl⟩ := mapM_cons_eq_some.mp ha
    obtain ⟨t, ts, htext, hts, rfl⟩ := mapM_cons_eq_some.mp ht
    obtain ⟨hwritten, hread⟩ := unicodeLabel?_again hfirst.1 hfirst.2 hlabel htext
    obtain ⟨hall, hreads⟩ := ih hrest has hts
    refine ⟨List.forall_mem_cons.mpr ⟨hwritten, hall⟩, fun hreadable => ?_⟩
    rw [List.all_cons, Bool.and_eq_true] at hreadable
    exact mapM_cons_eq_some.mpr ⟨t, ts, hread hreadable.1, hreads hreadable.2, rfl⟩

/-- What a name in ASCII is made of. -/
theorem toAscii?_labels (h : toAscii? cs = some name) :
    ∃ labels ascii texts, labels ≠ [] ∧ (∀ label ∈ labels, map? label = some label ∧ '.' ∉ label) ∧
      labels.mapM asciiLabel? = some ascii ∧ labels.mapM unicodeLabel? = some texts ∧
      name = ['.'].intercalate ascii ∧ (texts.any (·.any turns) && !(texts.all keepsDirection)) = false ∧
      name.any isForbidden = false := by
  unfold toAscii? at h
  split at h
  · cases h
  · rename_i mapped hmapped
    dsimp only at h
    split at h
    · rename_i ascii texts hascii htexts
      split at h
      · cases h
      · rename_i hdirection
        split at h
        · cases h
        · rename_i hallowed
          obtain rfl := Option.some.inj h
          refine ⟨_, ascii, texts, Text.splitAt_ne_nil mapped, ?_, hascii, htexts, rfl,
            Bool.eq_false_iff.mpr hdirection, Bool.eq_false_iff.mpr hallowed⟩
          intro label hlabel
          refine ⟨map?_label hmapped hlabel, fun hdot => ?_⟩
          cases Text.splitAt_free hlabel '.' hdot
    · cases h

/-- Labels of ASCII between dots are cut apart again, and mapping leaves them as they are. -/
theorem intercalate_written (hne : ascii ≠ []) (h : ∀ label ∈ ascii, IsWritten label) :
    Text.splitAt (· == '.') (['.'].intercalate ascii) = ascii ∧
      map? (['.'].intercalate ascii) = some (['.'].intercalate ascii) := by
  constructor
  · exact Text.splitAt_intercalate hne fun label hlabel => (h label hlabel).dot
  · apply map?_ascii
    · rw [isAscii_iff]
      exact Text.forall_mem_intercalate (x := '.') (P := (·.toNat < 0x80)) (by decide)
        fun label hlabel => isAscii_iff.mp (h label hlabel).ascii
    · have hdot : IsSettled '.'.toNat := (isSettled_ascii (by decide)).mpr (by decide)
      exact Text.forall_mem_intercalate (x := '.') (P := fun c => IsSettled c.toNat) hdot
        fun label hlabel => (h label hlabel).settled

/-- A name made of labels of ASCII is in ASCII already, if its labels can be read. -/
theorem toAscii?_written (hne : ascii ≠ []) (h : ∀ label ∈ ascii, IsWritten label)
    (hread : ascii.mapM unicodeLabel? = some texts)
    (hdirection : (texts.any (·.any turns) && !(texts.all keepsDirection)) = false)
    (hallowed : (['.'].intercalate ascii).any isForbidden = false) :
    toAscii? (['.'].intercalate ascii) = some (['.'].intercalate ascii) := by
  obtain ⟨hsplit, hmap⟩ := intercalate_written hne h
  have hsame : ascii.mapM asciiLabel? = some ascii := by
    have hid : ascii.mapM asciiLabel? = some (ascii.map id) := by
      refine mapM_eq_some_map fun label hlabel => ?_
      rw [asciiLabel?_ascii (h label hlabel).ascii]
      cases htext : unicodeLabel? label with
      | none =>
        rw [mapM_eq_none hlabel htext] at hread
        cases hread
      | some text => rfl
    rwa [List.map_id] at hid
  rw [toAscii?, hmap]
  dsimp only
  rw [hsplit, hsame, hread]
  dsimp only
  rw [hdirection, hallowed]
  rfl

/-- Whether the labels of a name are not too long to be read. -/
def hasReadableLabels (name : List Char) : Bool := (Text.splitAt (· == '.') name).all isReadable

/-- A name in ASCII reads as itself, or not at all if a label of it is too long to be read. -/
theorem toAscii?_again (h : toAscii? cs = some name) :
    toAscii? name = if hasReadableLabels name then some name else none := by
  obtain ⟨labels, ascii, texts, hne, hlabels, hascii, htexts, rfl, hdirection, hallowed⟩ := toAscii?_labels h
  obtain ⟨hwritten, hread⟩ := mapM_unicodeLabel?_again hlabels hascii htexts
  have hasciiNe : ascii ≠ [] := by
    rintro rfl
    obtain ⟨label, rest, rfl⟩ := List.exists_cons_of_ne_nil hne
    obtain ⟨_, _, _, _, hcons⟩ := mapM_cons_eq_some.mp hascii
    cases hcons
  obtain ⟨hsplit, hmap⟩ := intercalate_written hasciiNe hwritten
  rw [hasReadableLabels, hsplit]
  cases hreadable : ascii.all isReadable with
  | true => exact toAscii?_written hasciiNe hwritten (hread hreadable) hdirection hallowed
  | false =>
    obtain ⟨label, hlabel, hlong⟩ := List.all_eq_false.mp hreadable
    rw [toAscii?, hmap]
    dsimp only
    rw [hsplit, mapM_eq_none hlabel (unicodeLabel?_unreadable (Bool.eq_false_iff.mpr hlong))]
    cases ascii.mapM asciiLabel? with
    | none => rfl
    | some _ => rfl

theorem toAscii?_allowed (h : toAscii? cs = some name) : ∀ c ∈ name, isForbidden c = false := by
  obtain ⟨_, _, _, _, _, _, _, _, _, hallowed⟩ := toAscii?_labels h
  exact fun c hc => Bool.eq_false_iff.mpr (List.any_eq_false.mp hallowed c hc)

theorem turns_ascii {c : Char} (h : c.toNat < 0x80) : turns c = false := by
  have hdirection : direction c ≠ .rightToLeft ∧ direction c ≠ .arabicNumber := by
    unfold direction
    dsimp only
    rw [if_pos h]
    split
    · exact ⟨nofun, nofun⟩
    · split
      · exact ⟨nofun, nofun⟩
      · exact ⟨nofun, nofun⟩
  rw [turns, beq_false_of_ne hdirection.1, beq_false_of_ne hdirection.2, Bool.false_or]

/-- A name of plain labels in ASCII is in ASCII already. -/
theorem toAscii?_plain (hne : ascii ≠ []) (h : ∀ label ∈ ascii, IsWritten label)
    (hplain : ∀ label ∈ ascii, acePrefix.isPrefixOf label = false)
    (hallowed : (['.'].intercalate ascii).any isForbidden = false) :
    toAscii? (['.'].intercalate ascii) = some (['.'].intercalate ascii) := by
  have hread : ascii.mapM unicodeLabel? = some (ascii.map id) := by
    refine mapM_eq_some_map fun label hlabel => ?_
    rw [unicodeLabel?, hplain label hlabel, if_neg Bool.false_ne_true, if_pos (h label hlabel).ascii]
    rfl
  rw [List.map_id] at hread
  have hdirection : ascii.any (·.any turns) = false := by
    rw [List.any_eq_false]
    intro label hlabel
    rw [List.any_eq_true]
    rintro ⟨c, hc, hturns⟩
    rw [turns_ascii (isAscii_iff.mp (h label hlabel).ascii c hc)] at hturns
    cases hturns
  exact toAscii?_written hne h hread (by rw [hdirection, Bool.false_and]) hallowed

end

end Handoff.Url.Domain
