import Handoff.Proofs.Text.Numeral
import Handoff.Proofs.Url.Web

/-!
A URL of the web reads back from its text: the same parts, and nothing encoded twice. Only a host with a
label that is too long to be read stops it.
-/

namespace Handoff

namespace Url

/-! Authorities. -/

section
variable {user host cs rest : List Char}

theorem splitLastAt_of_notMem (h : '@' ∉ host) : splitLastAt host = none := by
  rw [splitLastAt, Text.pass_reverse_of_notMem h]

theorem splitLastAt_append (h : '@' ∉ host) (user : List Char) :
    splitLastAt (user ++ '@' :: host) = some (user, host) := by
  obtain ⟨htake, hdrop⟩ := Text.pass_reverse_append h user
  rw [splitLastAt, hdrop, htake]
  simp only [List.reverse_reverse]

/-- A text without brackets, and without colons outside brackets, is passed over. -/
theorem cutHost_append {bracket : Bool} (hopen : '[' ∉ cs) (hclose : ']' ∉ cs)
    (hcolon : bracket = true ∨ ':' ∉ cs) (rest : List Char) :
    cutHost bracket (cs ++ rest) = (cs ++ (cutHost bracket rest).1, (cutHost bracket rest).2) := by
  induction cs with
  | nil => rfl
  | cons c cs ih =>
    rw [List.mem_cons, not_or] at hopen hclose
    have hrest : bracket = true ∨ ':' ∉ cs :=
      hcolon.imp_right fun h hmem => h (List.mem_cons_of_mem c hmem)
    have hpass : ¬ (c = ':' ∧ bracket = false) := by
      rintro ⟨rfl, rfl⟩
      exact (hcolon.resolve_left Bool.false_ne_true) List.mem_cons_self
    rw [List.cons_append, cutHost, if_neg hpass, if_neg (Ne.symm hopen.1), if_neg (Ne.symm hclose.1),
      ih hopen.2 hclose.2 hrest]
    rfl

/-- The host ends where the port begins. -/
theorem cutHost_text {host : Host} (h : host.IsWeb) {rest : List Char}
    (hrest : rest = [] ∨ ∃ digits, rest = ':' :: digits) :
    cutHost false (host.text ++ rest) = (host.text, rest) := by
  have hend : cutHost false rest = ([], rest) := by
    rcases hrest with rfl | ⟨digits, rfl⟩
    · rfl
    · rfl
  cases h with
  | name ascii _ _ =>
    have hallowed := Domain.toAscii?_allowed ascii
    have hfree (c : Char) (hc : Domain.isForbidden c = true) : c ∉ Host.text (.name _) := fun hmem => by
      rw [hallowed c hmem] at hc
      cases hc
    rw [cutHost_append (hfree '[' (by decide)) (hfree ']' (by decide))
      (Or.inr (hfree ':' (by decide))), hend, List.append_nil]
  | ipv4 ip =>
    have hfree (c : Char) (hdot : '.' ≠ c) (hc : c.isDigit = false) : c ∉ Host.text (.ipv4 ip) :=
      ip.notMem_text hdot hc
    rw [cutHost_append (hfree '[' (by decide) (by decide)) (hfree ']' (by decide) (by decide))
      (Or.inr (hfree ':' (by decide) (by decide))), hend, List.append_nil]
  | ipv6 ip =>
    have htext : (Host.ipv6 ip).text ++ rest = '[' :: (ip.text ++ ']' :: rest) := by simp [Host.text]
    have hinner : cutHost true (ip.text ++ ']' :: rest) = (ip.text ++ [']'], rest) := by
      have hopen : '[' ∉ ip.text := ip.notMem_text (by decide) (by decide)
      have hshut : ']' ∉ ip.text := ip.notMem_text (by decide) (by decide)
      rw [cutHost_append hopen hshut (Or.inl rfl)]
      have hclose : cutHost true (']' :: rest) = ([']'], rest) := by
        rw [cutHost, if_neg (by decide), if_neg (by decide), if_pos rfl, hend]
      rw [hclose]
    rw [htext, cutHost, if_neg (by decide), if_pos rfl, hinner]
    rfl

theorem portOfText_decimal {scheme : List Char} {n : Nat} (hrange : n < 65536)
    (hdefault : defaultPort? scheme ≠ some n) :
    portOfText scheme (':' :: Text.decimal n) = .ok (some n, []) := by
  have hplain : ∀ c ∈ Text.decimal n, (c == '\\') = false :=
    Text.forall_mem_toDigits (by decide) (by decide) n
  have hcut : Text.cutAt (· == '\\') (Text.decimal n) = (Text.decimal n, []) := by
    have happend : Text.cutAt (· == '\\') (Text.decimal n ++ []) = (Text.decimal n, []) :=
      Text.cutAt_append hplain nofun
    rwa [List.append_nil] at happend
  have hne : Text.decimal n ≠ [] := Nat.toDigits_ne_nil
  rw [portOfText, hcut]
  dsimp only
  rw [if_neg hne, Text.numeral?_decimal]
  dsimp only
  rw [if_neg (Nat.not_le_of_lt hrange), if_neg hdefault]

end

section
variable {scheme : List Char} {a : Authority}

/-- The text of a port, behind the host. -/
def portText (port : Option Nat) : List Char :=
  match port with
  | some n => ':' :: Text.decimal n
  | none => []

theorem portOfText_portText (h : a.IsWeb scheme) :
    portOfText scheme (portText a.port) = .ok (a.port, []) := by
  cases hport : a.port with
  | none => rfl
  | some n =>
    obtain ⟨hrange, hdefault⟩ := h.port n hport
    exact portOfText_decimal hrange hdefault

/-- The user of a URL is cut from its host, and its name from its password. -/
theorem user_cut (h : a.IsWeb scheme) : ∃ user password,
    (splitLastAt (a.userText ++ a.hostText)).getD ([], a.userText ++ a.hostText) = (user, a.hostText) ∧
    Text.splitOnce ':' user = (a.username, password) ∧ password.getD [] = a.password := by
  have hhost : '@' ∉ a.hostText := fun hmem => absurd (h.forall_mem_hostText '@' hmem) (by decide)
  have hname : ':' ∉ a.username := fun hmem => absurd (h.username ':' hmem) (by decide)
  by_cases hnone : a.username = [] ∧ a.password = []
  · have huser : a.userText = [] := if_pos hnone
    refine ⟨[], none, ?_, ?_, hnone.2.symm⟩
    · rw [huser, List.nil_append, splitLastAt_of_notMem hhost]
      rfl
    · rw [hnone.1]
      rfl
  · by_cases hpassword : a.password = []
    · have huser : a.userText = a.username ++ ['@'] := by
        rw [Authority.userText, if_neg hnone, if_pos hpassword, List.append_nil]
      refine ⟨a.username, none, ?_, Text.splitOnce_of_notMem hname, hpassword.symm⟩
      rw [huser, List.append_assoc, List.singleton_append, splitLastAt_append hhost]
      rfl
    · have huser : a.userText = a.username ++ ':' :: a.password ++ ['@'] := by
        rw [Authority.userText, if_neg hnone, if_neg hpassword]
      refine ⟨a.username ++ ':' :: a.password, some a.password, ?_, Text.splitOnce_append hname _, rfl⟩
      rw [huser, List.append_assoc, List.singleton_append, splitLastAt_append hhost]
      rfl

/-- An authority is read part by part. -/
theorem authorityOfText_cut {cs user hostPort username hostText portText : List Char}
    {password : Option (List Char)} (hsplit : (splitLastAt cs).getD ([], cs) = (user, hostPort))
    (hname : Text.splitOnce ':' user = (username, password))
    (hcut : cutHost false hostPort = (hostText, portText)) (hne : hostText ≠ []) (more : Bool) :
    authorityOfText scheme .web more cs = (Host.ofText hostText).bind fun host =>
      (portOfText scheme portText).map fun r =>
        (⟨percentEncode keptInUserinfo username, percentEncode keptInUserinfo (password.getD []), host,
          r.1⟩, r.2) := by
  have hempty (rest : Prop) : ¬ (hostText = [] ∧ rest) := fun hboth => hne hboth.1
  have hread : (if SchemeKind.web.isSpecial = true then Host.ofText hostText
      else Host.ofOpaqueText hostText) = Host.ofText hostText := rfl
  have hends : splitLastAt cs = none ∧ user = [] ∧ hostPort = cs ∨
      splitLastAt cs = some (user, hostPort) := by
    cases hlast : splitLastAt cs with
    | none =>
      rw [hlast, Option.getD_none] at hsplit
      obtain ⟨rfl, rfl⟩ := Prod.mk.inj hsplit
      exact Or.inl ⟨rfl, rfl, rfl⟩
    | some r =>
      rw [hlast, Option.getD_some] at hsplit
      exact Or.inr (congrArg some hsplit)
  unfold authorityOfText
  rcases hends with ⟨hlast, rfl, rfl⟩ | hlast
  all_goals
    simp only [hlast, hname, hcut, if_neg (hempty _), hread]
    cases Host.ofText hostText with
    | error e => rfl
    | ok host =>
      cases portOfText scheme portText with
      | error e => rfl
      | ok r => rfl

/-- User, host and port of a URL read back from their text. -/
theorem authorityOfText_text (h : a.IsWeb scheme) (more : Bool) :
    authorityOfText scheme .web more (a.userText ++ a.hostText) =
      if a.host.isReadable then .ok (a, []) else .error .invalidDomain := by
  obtain ⟨user, password, huser, hname, hpassword⟩ := user_cut h
  have hport : portText a.port = [] ∨ ∃ digits, portText a.port = ':' :: digits := by
    cases a.port with
    | none => exact Or.inl rfl
    | some n => exact Or.inr ⟨_, rfl⟩
  have hcut : cutHost false a.hostText = (a.host.text, portText a.port) := cutHost_text h.host hport
  rw [authorityOfText_cut huser hname hcut (Host.text_ne_nil h.host), Host.ofText_text h.host,
    hpassword, percentEncode_of_kept h.username, percentEncode_of_kept h.password,
    portOfText_portText h]
  cases a.host.isReadable with
  | true => rfl
  | false => rfl

end

/-! Paths and what follows them. -/

section
variable {parts : List (List Char)}

/-- Segments without dot segments are put in place as they are. -/
theorem placeOnto_of_plain (h : ∀ part ∈ parts, isSingleDot part = false ∧ isDoubleDot part = false)
    (placed : List (List Char)) : placeOnto placed parts = parts.reverse ++ placed := by
  induction parts generalizing placed with
  | nil => rfl
  | cons part parts ih =>
    obtain ⟨⟨hsingle, hdouble⟩, hrest⟩ := List.forall_mem_cons.mp h
    rw [placeOnto, hdouble, hsingle, if_neg Bool.false_ne_true, if_neg Bool.false_ne_true, ih hrest,
      List.reverse_cons, List.append_assoc, List.singleton_append]

theorem splitAt_segments (hne : parts ≠ []) (h : ∀ part ∈ parts, IsSegment part) :
    ∃ cs, (Path.segments parts).text = '/' :: cs ∧ Text.splitAt (isSeparator .web) cs = parts := by
  induction parts with
  | nil => exact absurd rfl hne
  | cons part parts ih =>
    obtain ⟨hpart, hrest⟩ := List.forall_mem_cons.mp h
    have hfree : ∀ c ∈ part, isSeparator .web c = false := fun c hc => (hpart.kept c hc).2
    have htext : (Path.segments (part :: parts)).text =
        '/' :: (part ++ (Path.segments parts).text) := rfl
    refine ⟨_, htext, ?_⟩
    -- A segment ends at the slash of the next one, or at the end of the text.
    by_cases hparts : parts = []
    · subst hparts
      exact (List.append_nil part).symm ▸ Text.splitAt_of_free hfree
    · obtain ⟨cs, hcs, hsplit⟩ := ih hparts hrest
      rw [hcs, Text.splitAt_append hfree (by decide), hsplit]

/-- Segments read back from the text of their path. -/
theorem segmentsOfText_text (hne : parts ≠ []) (h : ∀ part ∈ parts, IsSegment part) :
    segmentsOfText .web (Path.segments parts).text = parts := by
  obtain ⟨cs, htext, hsplit⟩ := splitAt_segments hne h
  have hkept : parts.map (percentEncode keptInPath) = parts.map id :=
    List.map_congr_left fun part hpart => percentEncode_of_kept fun c hc => ((h part hpart).kept c hc).1
  have hplaced : placedOfText .web (Path.segments parts).text = parts := by
    have hplain : ∀ part ∈ parts, isSingleDot part = false ∧ isDoubleDot part = false :=
      fun part hpart => ⟨(h part hpart).not_single, (h part hpart).not_double⟩
    rw [htext, placedOfText, if_pos (by decide), hsplit, hkept, List.map_id, place, List.reverse_nil,
      placeOnto_of_plain hplain, List.append_nil, List.reverse_reverse]
  rw [segmentsOfText, if_neg (fun h => nomatch h.2), settle_eq (by decide), hplaced, colonDrive_web]

end

/-- Path, query and fragment are cut apart where they were put together. -/
theorem splitTail_text {path : List Char} {query fragment : Option (List Char)}
    (hpath : '?' ∉ path ∧ '#' ∉ path) (hquery : ∀ cs ∈ query, '#' ∉ cs) :
    splitTail (path ++ tail '?' query ++ tail '#' fragment) = (path, query, fragment) := by
  have hfront : Text.splitOnce '?' (path ++ tail '?' query) = (path, query) := by
    cases query with
    | none =>
      rw [tail, List.append_nil]
      exact Text.splitOnce_of_notMem hpath.1
    | some cs => exact Text.splitOnce_append hpath.1 cs
  have hfree : '#' ∉ path ++ tail '?' query := by
    rw [List.mem_append, not_or]
    refine ⟨hpath.2, ?_⟩
    cases query with
    | none => exact List.not_mem_nil
    | some cs =>
      rw [tail, List.mem_cons, not_or]
      exact ⟨by decide, hquery cs rfl⟩
  have hback : Text.splitOnce '#' (path ++ tail '?' query ++ tail '#' fragment) =
      (path ++ tail '?' query, fragment) := by
    cases fragment with
    | none =>
      rw [tail, List.append_nil]
      exact Text.splitOnce_of_notMem hfree
    | some cs => exact Text.splitOnce_append hfree cs
  rw [splitTail, hback]
  dsimp only
  rw [hfront]

/-! URLs. -/

/-- Whether the labels of the host of a URL are not too long to be read. -/
def hasReadableHost (u : Url) : Bool := u.authority.all (·.host.isReadable)

theorem significant_graphic {cs : List Char} (h : ∀ c ∈ cs, isGraphic c = true) :
    significant cs = cs := by
  have hlow : ∀ c ∈ cs, 0x20 < c.toNat := fun c hc =>
    of_decide_eq_true ((Bool.and_eq_true _ _).mp (h c hc)).1
  have hpass {ds : List Char} (hds : ∀ c ∈ ds, c ∈ cs) : ds.dropWhile isEdge = ds :=
    (Text.pass_append [] ds nofun fun c hc =>
      decide_eq_false (Nat.not_le_of_lt (hlow c (hds c (List.mem_of_mem_head? hc))))).2
  have hreverse : cs.reverse.dropWhile isEdge = cs.reverse := hpass fun c hc => List.mem_reverse.mp hc
  rw [significant, hpass fun _ hc => hc, Text.dropEndWhile, hreverse, List.reverse_reverse,
    List.filter_eq_self]
  intro c hc
  rw [Bool.not_eq_true', ← Bool.not_eq_true]
  intro hdropped
  have hdrop : c ∈ ['\t', '\n', '\r'] := by simpa [isDropped, or_assoc] using hdropped
  have hall : ['\t', '\n', '\r'].all (fun d => decide (d.toNat ≤ 0x20)) = true := by decide
  have hc' := of_decide_eq_true (List.all_eq_true.mp hall c hdrop)
  have hgraphic := hlow c hc
  omega

theorem splitScheme?_web {scheme : List Char} (h : SchemeKind.ofScheme scheme = .web)
    (rest : List Char) : splitScheme? (scheme ++ ':' :: rest) = some (scheme, rest) := by
  have hknown : ["http", "https", "ws", "wss", "ftp"].all (fun s =>
      s.toList.all isSchemeChar && decide (s.toList.map Char.toLower = s.toList) &&
        s.toList.head?.any Char.isAlpha) = true := by decide
  obtain ⟨s, hs, rfl⟩ := ofScheme_web h
  have hboth := List.all_eq_true.mp hknown s hs
  simp only [Bool.and_eq_true, decide_eq_true_eq] at hboth
  obtain ⟨⟨hchars, hlower⟩, hhead⟩ := hboth
  obtain ⟨c, hc, halpha⟩ := (Option.any_eq_true _ _).mp hhead
  obtain ⟨cs, hcs⟩ := List.head?_eq_some_iff.mp hc
  have hstop : ∀ d ∈ (':' :: rest).head?, isSchemeChar d = false := fun d hd => by
    obtain rfl := Option.some.inj hd
    decide
  obtain ⟨htake, hdrop⟩ := Text.pass_append s.toList (':' :: rest) (List.all_eq_true.mp hchars) hstop
  rw [hcs] at htake hdrop hlower ⊢
  rw [List.cons_append] at htake hdrop ⊢
  rw [splitScheme?, if_pos halpha, hdrop, htake, hlower]
  rfl

theorem endsAuthority_of_separator {c : Char} (h : isSeparator .web c = true) :
    endsAuthority .web c = true := by
  rw [isSeparator, Bool.or_eq_true] at h
  rw [endsAuthority]
  rcases h with hslash | hbackslash
  · rw [hslash, Bool.true_or, Bool.true_or, Bool.true_or]
  · rw [hbackslash, Bool.or_true]

theorem front_free {scheme : List Char} {a : Authority} (ha : a.IsWeb scheme) :
    a.userText ++ a.hostText ≠ [] ∧ ∀ c ∈ a.userText ++ a.hostText, endsAuthority .web c = false := by
  have hchar {c : Char} (hc : isAuthorityChar c = true) : endsAuthority .web c = false :=
    (Bool.not_eq_true' _).mp ((Bool.and_eq_true _ _).mp hc).2
  constructor
  · intro hnil
    exact Host.text_ne_nil ha.host (List.append_eq_nil_iff.mp (List.append_eq_nil_iff.mp hnil).2).1
  · rw [List.forall_mem_append]
    exact ⟨fun c hc => hchar (ha.forall_mem_userText c hc),
      fun c hc => hchar (isAuthorityChar_of_host (ha.forall_mem_hostText c hc))⟩

/-- The part of a URL of the web before its path is cut off where the path begins. -/
theorem front_cut {front back : List Char} (hne : front ≠ [])
    (hfree : ∀ c ∈ front, endsAuthority .web c = false) (hback : ∃ rest, back = '/' :: rest) :
    ('/' :: '/' :: (front ++ back)).dropWhile (isSeparator .web) = front ++ back ∧
      Text.cutAt (endsAuthority .web) (front ++ back) = (front, back) := by
  constructor
  · obtain ⟨first, rest, rfl⟩ := List.exists_cons_of_ne_nil hne
    have hfirst : isSeparator .web first = false := by
      rw [← Bool.not_eq_true]
      intro hseparator
      have hends := endsAuthority_of_separator hseparator
      rw [hfree first List.mem_cons_self] at hends
      cases hends
    have hslashes : ['/', '/'].all (isSeparator .web) = true := by decide
    have hstop : ∀ c ∈ (first :: rest ++ back).head?, isSeparator .web c = false :=
      fun c hc => Option.some.inj hc ▸ hfirst
    exact (Text.pass_append ['/', '/'] _ (List.all_eq_true.mp hslashes) hstop).2
  · refine Text.cutAt_append hfree fun c hc => ?_
    obtain ⟨rest, rfl⟩ := hback
    obtain rfl := Option.some.inj hc
    decide

theorem path_free {parts : List (List Char)} (h : ∀ part ∈ parts, IsSegment part) :
    '?' ∉ (Path.segments parts).text ∧ '#' ∉ (Path.segments parts).text := by
  have hfree (c : Char) (hslash : c ≠ '/') (hc : keptInPath c = false) :
      c ∉ (Path.segments parts).text := by
    intro hmem
    obtain ⟨part, hpart, hmem⟩ := List.mem_flatMap.mp hmem
    have hkept := ((h part hpart).kept c ((List.mem_cons.mp hmem).resolve_left hslash)).1
    rw [hc] at hkept
    cases hkept
  exact ⟨hfree '?' (by decide) (by decide), hfree '#' (by decide) (by decide)⟩

/-- The parts of a URL of the web are encoded already. -/
theorem assemble_web {u : Url} (h : u.IsWeb) :
    assemble u.scheme u.authority u.path u.query u.fragment = u := by
  have hspecial : (SchemeKind.ofScheme u.scheme).isSpecial = true := by
    rw [h.scheme]
    rfl
  have hquery : u.query.map (percentEncode (keptInQuery true)) = u.query := by
    cases hquery : u.query with
    | none => rfl
    | some cs => exact congrArg some (percentEncode_of_kept (h.query cs hquery))
  have hfragment : u.fragment.map (percentEncode keptInFragment) = u.fragment := by
    cases hfragment : u.fragment with
    | none => rfl
    | some cs => exact congrArg some (percentEncode_of_kept (h.fragment cs hfragment))
  rw [assemble, hspecial, hquery, hfragment]

/-- A URL of the web reads back from its text, or not at all if a label of its host is too long to be
read. -/
theorem parse_written {u : Url} (h : u.IsWeb) :
    parse u.text = if u.hasReadableHost then .ok u else .error .invalidDomain := by
  obtain ⟨a, hauthority, ha⟩ := h.authority
  obtain ⟨parts, hpath, hne, hsegments⟩ := h.path
  have htext : u.text = u.scheme ++ ':' :: '/' :: '/' :: (a.userText ++ a.hostText ++
      ((Path.segments parts).text ++ tail '?' u.query ++ tail '#' u.fragment)) := by
    simp [text, leadText, hauthority, hpath]
  have hback : ∃ rest,
      (Path.segments parts).text ++ tail '?' u.query ++ tail '#' u.fragment = '/' :: rest := by
    obtain ⟨cs, hcs, _⟩ := splitAt_segments hne hsegments
    exact ⟨_, by rw [hcs, List.cons_append, List.cons_append]⟩
  -- The text is cut where its parts were put together: behind the scheme, before the path and
  -- behind it.
  obtain ⟨hfrontNe, hfrontFree⟩ := front_free ha
  obtain ⟨hskip, hcut⟩ := front_cut hfrontNe hfrontFree hback
  have htail : splitTail ((Path.segments parts).text ++ tail '?' u.query ++ tail '#' u.fragment) =
      ((Path.segments parts).text, u.query, u.fragment) := splitTail_text (path_free hsegments)
    fun cs hcs hmem => absurd (h.query cs hcs '#' hmem) (by decide)
  have hreadable : u.hasReadableHost = a.host.isReadable := by
    rw [hasReadableHost, hauthority]
    rfl
  -- No part is encoded twice.
  have hassemble := assemble_web h
  rw [hauthority, hpath] at hassemble
  rw [parse, significant_graphic h.forall_mem_text, htext, splitScheme?_web h.scheme]
  dsimp only
  rw [h.scheme]
  dsimp only
  rw [hskip, parseAuthority, hcut]
  dsimp only
  rw [authorityOfText_text ha, hreadable]
  cases a.host.isReadable with
  | false => rfl
  | true =>
    rw [if_pos rfl]
    dsimp only
    rw [List.nil_append, htail]
    dsimp only
    rw [segmentsOfText_text hne hsegments, hassemble]
    rfl

end Url

end Handoff
