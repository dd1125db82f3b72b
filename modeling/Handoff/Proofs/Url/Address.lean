import Handoff.Proofs.Option
import Handoff.Proofs.Text.Numeral
import Handoff.Proofs.Text.Split
import Handoff.Url.Ipv6

/-!
Addresses that are written read back: four octets as an IPv4 address, and groups with the longest run of
zeros left out as an IPv6 address.
-/

namespace Handoff

namespace Ipv4

def octets (ip : Ipv4) : List UInt8 := [ip.a, ip.b, ip.c, ip.d]

theorem text_eq (ip : Ipv4) :
    ip.text = ['.'].intercalate (ip.octets.map fun o => Text.decimal o.toNat) := by
  simp [text, octets]

theorem isDigit_decimal {n : Nat} : ∀ c ∈ Text.decimal n, c.isDigit = true :=
  Text.forall_mem_toDigits (by decide) (by decide) n

/-- An address is written in digits and dots. -/
theorem notMem_text (ip : Ipv4) {c : Char} (hdot : '.' ≠ c) (hc : c.isDigit = false) :
    c ∉ ip.text := by
  have hall : ∀ d ∈ ip.text, d ≠ c := by
    rw [text_eq]
    refine Text.forall_mem_intercalate hdot fun part hpart d hd => ?_
    obtain ⟨o, _, rfl⟩ := List.mem_map.mp hpart
    rintro rfl
    rw [isDigit_decimal d hd] at hc
    cases hc
  exact fun hmem => hall c hmem rfl

theorem splitAt_text (ip : Ipv4) :
    Text.splitAt (· == '.') ip.text = ip.octets.map fun o => Text.decimal o.toNat := by
  rw [text_eq]
  refine Text.splitAt_intercalate (List.cons_ne_nil _ _) fun part hpart hdot => ?_
  obtain ⟨o, _, rfl⟩ := List.mem_map.mp hpart
  cases isDigit_decimal _ hdot

theorem looseParts_text (ip : Ipv4) :
    looseParts ip.text = ip.octets.map fun o => Text.decimal o.toNat := by
  have hlast : Text.decimal ip.d.toNat ≠ [] := Nat.toDigits_ne_nil
  rw [looseParts, splitAt_text]
  exact if_neg fun h => hlast (Option.some.inj h)

theorem looseNumber?_decimal (n : Nat) : looseNumber? (Text.decimal n) = some n := by
  have hne : Text.decimal n ≠ [] := Nat.toDigits_ne_nil
  rcases Nat.eq_zero_or_pos n with rfl | hpos
  · rfl
  · obtain ⟨c, cs, heq, hc⟩ := Text.decimal_head hpos
    have hread := Text.numeral?_decimal n
    rw [heq] at hread ⊢
    unfold looseNumber?
    split
    · rename_i h
      cases h
    · rename_i h
      exact absurd (List.cons.inj h).1 hc
    · rename_i h
      exact absurd (List.cons.inj h).1 hc
    · rename_i h
      exact absurd (List.cons.inj h).1 hc
    · exact (if_neg (List.cons_ne_nil _ _)).trans hread

theorem endsInNumber_text (ip : Ipv4) : endsInNumber ip.text = true := by
  have hlast : (looseParts ip.text).getLast? = some (Text.decimal ip.d.toNat) := by
    rw [looseParts_text]
    rfl
  rw [endsInNumber, hlast]
  dsimp only
  rw [looseNumber?_decimal, Option.isSome_some, Bool.or_true]

theorem ofNat_octets (ip : Ipv4) :
    ofNat (ip.d.toNat + ip.a.toNat * Nat.pow 2 24 + ip.b.toNat * Nat.pow 2 16 +
      ip.c.toNat * Nat.pow 2 8) = ip := by
  obtain ⟨a, b, c, d⟩ := ip
  have ha : a.toNat < 256 := a.toNat_lt
  have hb : b.toNat < 256 := b.toNat_lt
  have hc : c.toNat < 256 := c.toNat_lt
  have hd : d.toNat < 256 := d.toNat_lt
  have hoctet {n : Nat} {o : UInt8} (h : n % 256 = o.toNat) : UInt8.ofNat n = o := by
    rw [← UInt8.toNat_inj]
    exact h
  rw [ofNat, mk.injEq]
  simp only [Nat.pow_eq, Nat.reducePow]
  exact ⟨hoctet (by omega), hoctet (by omega), hoctet (by omega), hoctet (by omega)⟩

/-- An address that is written is read. -/
theorem ofLoose?_text (ip : Ipv4) : ofLoose? ip.text = some ip := by
  have hnumbers : (looseParts ip.text).mapM looseNumber? =
      some [ip.a.toNat, ip.b.toNat, ip.c.toNat, ip.d.toNat] := by
    rw [looseParts_text, List.mapM_map]
    exact mapM_eq_some_map fun o _ => looseNumber?_decimal o.toNat
  have hreverse : [ip.a.toNat, ip.b.toNat, ip.c.toNat, ip.d.toNat].reverse =
      [ip.d.toNat, ip.c.toNat, ip.b.toNat, ip.a.toNat] := rfl
  have hlast : ip.d.toNat < 256 := ip.d.toNat_lt
  have hupper : [ip.c.toNat, ip.b.toNat, ip.a.toNat].all (· < 256) = true := by
    simp only [List.all_cons, List.all_nil, Bool.and_true, Bool.and_eq_true, decide_eq_true_eq]
    exact ⟨ip.c.toNat_lt, ip.b.toNat_lt, ip.a.toNat_lt⟩
  rw [ofLoose?, hnumbers]
  dsimp only
  rw [hreverse]
  dsimp only
  rw [if_pos ⟨by simp, by simpa using hlast, hupper⟩]
  exact congrArg some (ofNat_octets ip)

end Ipv4

namespace Ipv6

/-! Groups. -/

theorem colon_notMem_hexadecimal (n : Nat) : ∀ c ∈ Text.hexadecimal n, c ≠ ':' :=
  Text.forall_mem_toDigits (by decide) (by decide) n

theorem group?_hexadecimal (g : UInt16) : group? (Text.hexadecimal g.toNat) = some g := by
  have hlength : (Text.hexadecimal g.toNat).length ≤ 4 :=
    (Nat.length_toDigits_le_iff (by decide) (by decide)).mpr g.toNat_lt
  rw [group?, if_neg (Nat.not_lt_of_le hlength), Text.numeral?_hexadecimal, Option.map_some,
    UInt16.ofNat_toNat]

theorem groups?_map (ipv4Last : Bool) (groups : List UInt16) :
    groups? ipv4Last (groups.map fun g => Text.hexadecimal g.toNat) = some groups := by
  induction groups with
  | nil => rfl
  | cons g rest ih =>
    cases rest with
    | nil =>
      rw [List.map_cons, List.map_nil, groups?, group?_hexadecimal]
    | cons next rest =>
      rw [List.map_cons, groups?, group?_hexadecimal, ih]
      exact fun h => List.cons_ne_nil _ _ h

theorem groupsText_cons_cons (g next : UInt16) (rest : List UInt16) :
    groupsText (g :: next :: rest) = Text.hexadecimal g.toNat ++ ':' :: groupsText (next :: rest) := by
  simp [groupsText]

/-- Groups start with a digit. -/
theorem groupsText_cons (g : UInt16) (rest : List UInt16) :
    ∃ c cs, groupsText (g :: rest) = c :: cs ∧ c ≠ ':' := by
  obtain ⟨c, cs, hdigits⟩ := List.exists_cons_of_ne_nil (Nat.toDigits_ne_nil (b := 16) (n := g.toNat))
  have hmem : c ∈ Text.hexadecimal g.toNat := by
    rw [Text.hexadecimal, hdigits]
    exact List.mem_cons_self
  have hc : c ≠ ':' := colon_notMem_hexadecimal g.toNat c hmem
  cases rest with
  | nil => exact ⟨c, cs, by simpa [groupsText, Text.hexadecimal] using hdigits, hc⟩
  | cons next rest =>
    refine ⟨c, cs ++ ':' :: groupsText (next :: rest), ?_, hc⟩
    rw [groupsText_cons_cons, Text.hexadecimal, hdigits, List.cons_append]

/-- Groups that are written are read. -/
theorem groupsOfText?_groupsText (ipv4Last : Bool) (groups : List UInt16) :
    groupsOfText? ipv4Last (groupsText groups) = some groups := by
  cases groups with
  | nil => rfl
  | cons g rest =>
    obtain ⟨c, cs, htext, _⟩ := groupsText_cons g rest
    have hsplit : Text.splitAt (· == ':') (groupsText (g :: rest)) =
        (g :: rest).map fun g => Text.hexadecimal g.toNat := by
      refine Text.splitAt_intercalate (List.cons_ne_nil _ _) fun part hpart hcolon => ?_
      obtain ⟨group, _, rfl⟩ := List.mem_map.mp hpart
      exact colon_notMem_hexadecimal _ ':' hcolon rfl
    rw [groupsOfText?, hsplit, groups?_map]
    refine if_neg fun hempty => ?_
    rw [htext] at hempty
    cases hempty

/-! The gap. -/

theorem atGap?_cons {c : Char} (h : c ≠ ':') (cs : List Char) :
    atGap? (c :: cs) = (atGap? cs).map (fun r => (c :: r.1, r.2)) := by
  rw [atGap?]
  rintro rest heq _
  exact h heq

theorem atGap?_colon {c : Char} (h : c ≠ ':') (cs : List Char) :
    atGap? (':' :: c :: cs) = (atGap? (c :: cs)).map (fun r => (':' :: r.1, r.2)) := by
  rw [atGap?]
  rintro rest _ heq
  exact h (List.cons.inj heq).1

theorem atGap?_append {part : List Char} (h : ∀ c ∈ part, c ≠ ':') (cs : List Char) :
    atGap? (part ++ cs) = (atGap? cs).map (fun r => (part ++ r.1, r.2)) := by
  induction part with
  | nil =>
    rw [List.nil_append]
    cases atGap? cs with
    | none => rfl
    | some r => rfl
  | cons c part ih =>
    obtain ⟨hc, hpart⟩ := List.forall_mem_cons.mp h
    rw [List.cons_append, atGap?_cons hc, ih hpart, Option.map_map]
    rfl

/-- There is no gap within groups. -/
theorem atGap?_groupsText (groups : List UInt16) (cs : List Char) :
    atGap? (groupsText groups ++ cs) = (atGap? cs).map (fun r => (groupsText groups ++ r.1, r.2)) := by
  induction groups with
  | nil => exact atGap?_append (fun _ hc => absurd hc List.not_mem_nil) cs
  | cons g rest ih =>
    cases rest with
    | nil =>
      have hone : groupsText [g] = Text.hexadecimal g.toNat := by simp [groupsText]
      rw [hone]
      exact atGap?_append (colon_notMem_hexadecimal _) cs
    | cons next rest =>
      -- Behind the colon between two groups stands a digit, so no gap begins there.
      obtain ⟨c, ds, htext, hc⟩ := groupsText_cons next rest
      rw [groupsText_cons_cons, List.append_assoc, atGap?_append (colon_notMem_hexadecimal _),
        List.cons_append, htext, List.cons_append, atGap?_colon hc, ← List.cons_append, ← htext, ih,
        Option.map_map, Option.map_map]
      simp [Function.comp_def]

/-! The run of zeros that is left out. -/

theorem longestZeros_run (groups : List UInt16) :
    zerosFrom groups (longestZeros groups).1 = (longestZeros groups).2 ∨
      (longestZeros groups).2 = 0 := by
  -- The best run so far is a run of zeros from its start on, or none has been found.
  refine List.foldlRecOn
    (motive := fun best : Nat × Nat => zerosFrom groups best.1 = best.2 ∨ best.2 = 0)
    (List.range groups.length) _ (Or.inr rfl) ?_
  intro best hbest i _
  by_cases hlonger : best.2 < zerosFrom groups i
  · rw [if_pos hlonger]
    exact Or.inl rfl
  · rw [if_neg hlonger]
    exact hbest

theorem drop_zerosFrom (groups : List UInt16) (i : Nat) :
    groups.drop i = List.replicate (zerosFrom groups i) 0 ++ groups.drop (i + zerosFrom groups i) := by
  have hsplit : (groups.drop i).takeWhile (· == 0) ++ (groups.drop i).dropWhile (· == 0) =
      groups.drop i :=
    List.takeWhile_append_dropWhile
  have hzeros : (groups.drop i).takeWhile (· == 0) = List.replicate (zerosFrom groups i) 0 := by
    rw [List.eq_replicate_iff]
    exact ⟨rfl, fun g hg => beq_iff_eq.mp (List.all_eq_true.mp List.all_takeWhile g hg)⟩
  have hrest : groups.drop (i + zerosFrom groups i) = (groups.drop i).dropWhile (· == 0) :=
    calc groups.drop (i + zerosFrom groups i)
      _ = (groups.drop i).drop (zerosFrom groups i) := List.drop_drop.symm
      _ = ((groups.drop i).takeWhile (· == 0) ++ (groups.drop i).dropWhile (· == 0)).drop
          (zerosFrom groups i) := by rw [hsplit]
      _ = (groups.drop i).dropWhile (· == 0) := List.drop_left' rfl
  rw [hrest, ← hzeros, hsplit]

theorem text_eq (ip : Ipv6) : ip.text =
    if (longestZeros ip.groups).2 < 2 then groupsText ip.groups
    else groupsText (ip.groups.take (longestZeros ip.groups).1) ++
      ':' :: ':' :: groupsText
        (ip.groups.drop ((longestZeros ip.groups).1 + (longestZeros ip.groups).2)) := rfl

/-- An address is written in digits and colons. -/
theorem notMem_text (ip : Ipv6) {c : Char} (hcolon : ':' ≠ c)
    (hdigit : ∀ n < 16, Nat.digitChar n ≠ c) : c ∉ ip.text := by
  have hgroups (groups : List UInt16) : ∀ d ∈ groupsText groups, d ≠ c := by
    refine Text.forall_mem_intercalate hcolon fun part hpart => ?_
    obtain ⟨g, _, rfl⟩ := List.mem_map.mp hpart
    exact Text.forall_mem_toDigits (by decide) hdigit g.toNat
  have hall : ∀ d ∈ ip.text, d ≠ c := by
    rw [text_eq]
    split
    · exact hgroups _
    · simp only [List.forall_mem_append, List.forall_mem_cons]
      exact ⟨hgroups _, hcolon, hcolon, hgroups _⟩
  exact fun hmem => hall c hmem rfl

theorem ofGroups?_groups (ip : Ipv6) : ofGroups? ip.groups = some ip := dif_pos ip.size

theorem ofText?_groupsText (ip : Ipv6) : ofText? (groupsText ip.groups) = some ip := by
  have hgap : atGap? (groupsText ip.groups) = none := by
    have hbehind := atGap?_groupsText ip.groups []
    rwa [List.append_nil] at hbehind
  have hne : groupsText ip.groups ≠ [] := by
    cases hgroups : ip.groups with
    | nil =>
      have hsize := ip.size
      rw [hgroups] at hsize
      cases hsize
    | cons g rest =>
      obtain ⟨c, cs, htext, _⟩ := groupsText_cons g rest
      rw [htext]
      exact List.cons_ne_nil _ _
  rw [ofText?, hgap]
  dsimp only
  rw [if_neg hne, groupsOfText?_groupsText, Option.bind_some, ofGroups?_groups]

theorem ofText?_gap (ip : Ipv6) {i n : Nat} (hrun : zerosFrom ip.groups i = n) (hlong : 0 < n) :
    ofText? (groupsText (ip.groups.take i) ++ ':' :: ':' :: groupsText (ip.groups.drop (i + n))) =
      some ip := by
  have hdrop := drop_zerosFrom ip.groups i
  rw [hrun] at hdrop
  have hlengths := congrArg List.length hdrop
  rw [List.length_append, List.length_replicate, List.length_drop, List.length_drop,
    ip.size] at hlengths
  have hgap := atGap?_groupsText (ip.groups.take i) (':' :: ':' :: groupsText (ip.groups.drop (i + n)))
  have hcolons (rest : List Char) : atGap? (':' :: ':' :: rest) = some ([], rest) := rfl
  rw [hcolons, Option.map_some, List.append_nil] at hgap
  have hmissing : 8 - ((ip.groups.take i).length + (ip.groups.drop (i + n)).length) = n := by
    rw [List.length_take, List.length_drop, ip.size]
    omega
  have hfew : (ip.groups.take i).length + (ip.groups.drop (i + n)).length < 8 := by omega
  have hgroups : ip.groups.take i ++ List.replicate n 0 ++ ip.groups.drop (i + n) = ip.groups := by
    rw [List.append_assoc, ← hdrop, List.take_append_drop]
  rw [ofText?, hgap]
  dsimp only
  rw [groupsOfText?_groupsText, groupsOfText?_groupsText]
  dsimp only
  rw [if_pos hfew, hmissing, hgroups, ofGroups?_groups]

/-- An address that is written is read. -/
theorem ofText?_text (ip : Ipv6) : ofText? ip.text = some ip := by
  rw [text_eq]
  split
  · exact ofText?_groupsText ip
  · rename_i hlong
    rcases longestZeros_run ip.groups with hrun | hzero
    · exact ofText?_gap ip hrun (by omega)
    · omega

end Ipv6

end Handoff
