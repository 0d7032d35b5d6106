import Gatehouse.Proofs.Url.LetterCase
import Gatehouse.Proofs.Url.Texts

/-!
# Hosts that mark the rack

A URL points into the rack if the text of its host is the marker. The text of a host depends on the
scheme: a special scheme brings it into the canonical form of a domain, a general scheme keeps it as
it stands. So under `http` the marker may be written in any letter case and with any of its
characters encoded, and under `tcp` in one way only. A host that marks the rack under `tcp` marks it
under `http` as well, but not the other way round.

## Main definitions

* `Url.hostChars`: the characters of a host that count.
* `Url.IsHostText`: a text that is read as a host as a whole.
* `Url.HasClass`: a scheme of a class.

## Main results

* `Host.parseSpecial_eq_name_iff`, `Host.parseGeneral_eq_name_iff`: the texts that a name is read
  from.
* `Url.exists_parse_special`, `Url.exists_parse_general`: a URL has the host that its text is read
  as.
* `Url.isRackTarget_iff_of_special`, `Url.isRackTarget_iff_of_general`: the hosts that mark the
  rack.
* `Url.isRackTarget_of_hostText`: which URLs of both schemes point into the rack.
* `Url.unmarked_in_upper_case`: a host that marks the rack under one of the two schemes only.
-/

namespace Gatehouse

/-! ### Encoded texts -/

namespace Percent

theorem percent_mem_encodeChar {inSet : Char → Bool} {c : Char} (h : inSet c = true) :
    '%' ∈ encodeChar inSet c := by
  have hne : Utf8.encodeChar c ≠ [] := by
    unfold Utf8.encodeChar
    extract_lets n
    split_ifs <;> simp
  obtain ⟨b, bs, hbytes⟩ := List.exists_cons_of_ne_nil hne
  rw [encodeChar, if_pos h, hbytes]
  exact List.mem_cons_self

/-- A text in which nothing is encoded has been the same before. -/
theorem encode_eq_self_of_notMem {inSet : Char → Bool} {cs : List Char}
    (h : '%' ∉ encode inSet cs) : encode inSet cs = cs :=
  encode_of_isEncoded fun c hc => Bool.not_eq_true _ ▸ fun hin =>
    h (List.mem_flatMap.2 ⟨c, hc, percent_mem_encodeChar hin⟩)

end Percent

/-! ### The marker -/

namespace Host

variable {cs name : List Char} {host : Host}

theorem parseBracketed_ne_name {inner : List Char} {text : String} :
    parseBracketed inner ≠ .ok (.name text) := by
  unfold parseBracketed
  split
  · split <;> simp
  · simp

/-- A domain that does not end in a number is a name. -/
theorem ofDomain_eq_name_iff {domain : List Char} (hne : name ≠ [])
    (hnumber : Ipv4.endsInNumber name = false) :
    ofDomain domain = .ok (.name (String.ofList name)) ↔ domain = name := by
  constructor
  · intro h
    unfold ofDomain at h
    split_ifs at h
    · split at h <;> cases h
    · exact String.ofList_injective (Host.name.inj (Except.ok.inj h))
  · rintro rfl
    rw [ofDomain, if_neg hne, hnumber]
    rfl

/-- The host of a special scheme is a name if this is the domain that it is read as. -/
theorem parseSpecial_eq_name_iff (hne : name ≠ []) (hnumber : Ipv4.endsInNumber name = false) :
    parseSpecial cs = .ok (.name (String.ofList name)) ↔ domain? cs = some name := by
  by_cases hbracket : cs.head? = some '['
  · obtain ⟨inner, rfl⟩ := List.head?_eq_some_iff.1 hbracket
    exact iff_of_false parseBracketed_ne_name (by simp [domain?])
  · have hinner : ∀ inner, cs ≠ '[' :: inner := fun inner heq => hbracket (heq ▸ rfl)
    rw [parseSpecial, domain?, if_neg hbracket, bytes]
    · cases (Utf8.decode? (Percent.decode (Utf8.encode cs))).bind Domain.toAscii? with
      | none => simp
      | some domain => rw [Option.some.injEq, ofDomain_eq_name_iff hne hnumber]
    · exact hinner

/-- The characters of a plain name are no delimiters, and none of them is encoded. -/
theorem isDelimiter_of_isPlain (h : Domain.IsPlain name) : ∀ c ∈ name, isDelimiter c = false := by
  intro c hc
  have hname := isNameChar_of_isForbidden (Domain.isPlainChar_iff.1 (h c hc)).2.2
  simpa using (Bool.and_eq_true_iff.1 hname).2

theorem isEncoded_of_isPlain (h : Domain.IsPlain name) :
    Percent.IsEncoded Percent.inControls name := by
  intro c hc
  obtain ⟨hascii, -, hforbidden⟩ := Domain.isPlainChar_iff.1 (h c hc)
  simp only [Domain.isForbidden, Bool.or_eq_false_iff, decide_eq_false_iff_not, beq_eq_false_iff_ne]
    at hforbidden
  simp only [Percent.inControls, Bool.or_eq_false_iff, decide_eq_false_iff_not]
  omega

/-- The host of a general scheme is a plain name if it is written so. -/
theorem parseGeneral_eq_name_iff (hne : name ≠ []) (hplain : Domain.IsPlain name) :
    parseGeneral cs = .ok (some (.name (String.ofList name))) ↔ cs = name := by
  have hpercent : '%' ∉ name := fun hmem => absurd (hplain '%' hmem) (by decide)
  constructor
  · intro h
    unfold parseGeneral at h
    split at h
    next => cases h
    next =>
      obtain ⟨host, hparse, heq⟩ := exists_of_map_eq_ok h
      cases heq
      exact absurd hparse parseBracketed_ne_name
    next =>
      split_ifs at h
      have hname : Percent.encode Percent.inControls cs = name :=
        String.ofList_injective (Host.name.inj (Option.some.inj (Except.ok.inj h)))
      rw [← hname, Percent.encode_eq_self_of_notMem (hname ▸ hpercent)]
  · rintro rfl
    have hchars := isDelimiter_of_isPlain hplain
    have hinner : ∀ inner, cs ≠ '[' :: inner := fun inner heq =>
      absurd (hchars '[' (heq ▸ List.mem_cons_self)) (by decide)
    have hany : cs.any isDelimiter = false := List.any_eq_false.2 fun c hc => by simp [hchars c hc]
    rw [parseGeneral, hany, Percent.encode_of_isEncoded (isEncoded_of_isPlain hplain)]
    · rfl
    · exact hne
    · exact hinner

theorem isOrdinary_rackHost : Domain.IsOrdinary rackHost.toList := ⟨by decide, by decide⟩

/-- The marker is a host of all schemes. -/
theorem isRead_rackHost (special : Bool) : IsRead special (.name rackHost) := by
  have hplain := isOrdinary_rackHost.plain
  rw [← String.ofList_toList (s := rackHost)]
  cases special with
  | true =>
    exact .domain (by decide) (by decide)
      fun c hc => (Domain.isPlainChar_iff.1 (hplain c hc)).2.2
  | false =>
    rw [← Percent.encode_of_isEncoded (isEncoded_of_isPlain hplain)]
    exact .encoded (by decide) (isDelimiter_of_isPlain hplain)

theorem IsRead.text_eq_rackHost_iff {special : Bool} (h : IsRead special host) :
    host.text = rackHost ↔ host = .name rackHost :=
  ⟨fun htext => h.eq_of_text_eq (isRead_rackHost special) htext, fun heq => heq ▸ rfl⟩

end Host

/-! ### Texts of hosts -/

/-- The characters that end an authority or the user in it. -/
def Authority.signs : List Char := "/\\?#@".toList

/-- What is in front of the path is read as a host as a whole. -/
theorem Authority.read_hostText {special : Bool} {cs : List Char}
    (hcut : cutHost false cs = (cs, [])) (hsigns : ∀ c ∈ cs, c ∉ signs) (scheme : String)
    (tail : List Char) : read scheme special (cs ++ '/' :: tail) =
      (readHost special cs).map fun host => (⟨"", none, host, none⟩, '/' :: tail) := by
  have hends : ∀ c ∈ cs, (!isEnd special c) = true := by
    intro c hc
    have hne : ∀ sign ∈ signs, c ≠ sign := fun sign hsign heq => hsigns c hc (heq ▸ hsign)
    simp [isEnd, hne '/' (by decide), hne '?' (by decide), hne '#' (by decide),
      hne '\\' (by decide)]
  have hslash : ¬ (!isEnd special '/') = true := by cases special <;> decide
  have hregion : (cs ++ '/' :: tail).takeWhile (fun c => !isEnd special c) = cs := by
    rw [List.takeWhile_append_of_pos hends, List.takeWhile_cons_of_neg (by simp [hslash]),
      List.append_nil]
  have hrest : (cs ++ '/' :: tail).dropWhile (fun c => !isEnd special c) = '/' :: tail := by
    rw [List.dropWhile_append_of_pos hends, List.dropWhile_cons_of_neg (by simp [hslash])]
  have hsign : '@' ∉ cs := fun hmem => hsigns '@' hmem (by decide)
  have huser : readUser [] = ("", none) := rfl
  have hport : readPort scheme [] = .ok (none, []) := rfl
  rw [read, hregion, hrest, Text.cutLast_of_notMem hsign]
  dsimp only
  rw [hcut, Option.getD_none, huser]
  cases readHost special cs with
  | error e => rfl
  | ok host => simp [hport, Except.map]

namespace Url

/-- A character counts unless it is a tab or a line end. -/
def isCounted (c : Char) : Bool := c != '\t' && c != '\n' && c != '\r'

/-- The characters of a text that count. -/
def hostChars (h : String) : List Char := h.toList.filter isCounted

/-- A text that is read as a host as a whole: none of its characters ends the authority or the user,
and all of its colons stand in brackets. -/
structure IsHostText (h : String) : Prop where
  ne_nil : hostChars h ≠ []
  whole : Authority.cutHost false (hostChars h) = (hostChars h, [])
  notMem_signs : ∀ c ∈ hostChars h, c ∉ Authority.signs

theorem isCounted_of_not_isBlank {c : Char} (h : isBlank c = false) : isCounted c = true := by
  have htab : c ≠ '\t' := fun heq => absurd h (heq ▸ by decide)
  have hline : c ≠ '\n' := fun heq => absurd h (heq ▸ by decide)
  have hreturn : c ≠ '\r' := fun heq => absurd h (heq ▸ by decide)
  simp [isCounted, htab, hline, hreturn]

/-- A text of characters of names is a host as a whole. -/
theorem IsHostText.of_isNameChar {h : String} (hne : h.toList ≠ [])
    (hname : h.toList.all Host.isNameChar = true) : IsHostText h := by
  have hchars : ∀ c ∈ h.toList, Host.isNameChar c = true := List.all_eq_true.1 hname
  have hown : hostChars h = h.toList := List.filter_eq_self.2 fun c hc =>
    isCounted_of_not_isBlank (isBlank_of_isTextChar (Host.isTextChar_of_isNameChar (hchars c hc)))
  have hsigns : Authority.signs.any Host.isNameChar = false := by decide
  have hwhole := Authority.cutHost_append hchars []
  rw [List.append_nil] at hwhole
  refine ⟨?_, ?_, ?_⟩ <;> rw [hown]
  · exact hne
  · rw [hwhole, Authority.cutHost, List.append_nil]
  · exact fun c hc hsign => List.any_eq_false.1 hsigns c hsign (hchars c hc)

/-- Blanks are taken away only behind the last slash. -/
theorem cleaned_append_slash {front : List Char} (hfront : ∀ c ∈ front.head?, isBlank c = false)
    (path : List Char) :
    ∃ rest, cleaned (front ++ '/' :: path) = front.filter isCounted ++ '/' :: rest := by
  have hleft : (front ++ '/' :: path).dropWhile isBlank = front ++ '/' :: path := by
    cases front with
    | nil => rfl
    | cons c front => exact List.dropWhile_cons_of_neg (by simp [hfront c rfl])
  -- The slash is no blank, so nothing in front of it is taken away from the right.
  have hright : Text.trimRight isBlank (front ++ '/' :: path) =
      front ++ '/' :: Text.trimRight isBlank path := by
    rw [Text.trimRight, Text.trimRight, List.reverse_append, List.reverse_cons, List.append_assoc,
      List.singleton_append, List.dropWhile_append]
    split
    next hall =>
      rw [List.isEmpty_iff.1 hall, List.dropWhile_cons_of_neg (by decide)]
      simp
    next => simp
  refine ⟨(Text.trimRight isBlank path).filter isCounted, ?_⟩
  have hcleaned : cleaned (front ++ '/' :: path) =
      (Text.trim isBlank (front ++ '/' :: path)).filter isCounted := rfl
  rw [hcleaned, Text.trim, hleft, hright, List.filter_append]
  rfl

/-- A scheme of a class: it is cut off in front of its colon. -/
structure HasClass (scheme : String) (kind : SchemeClass) : Prop where
  class_eq : SchemeClass.of scheme = kind
  cutScheme?_eq : ∀ rest, cutScheme? (scheme.toList ++ ':' :: rest) = some (scheme, rest)
  any_isBlank : scheme.toList.any isBlank = false

theorem HasClass.not_isBlank {scheme : String} {kind : SchemeClass} (h : HasClass scheme kind) :
    ∀ c ∈ scheme.toList, isBlank c = false := fun c hc =>
  Bool.not_eq_true _ ▸ List.any_eq_false.1 h.any_isBlank c hc

theorem hasClass_http : HasClass "http" .special := ⟨rfl, fun _ => rfl, by decide⟩

theorem hasClass_tcp : HasClass "tcp" .general := ⟨rfl, fun _ => rfl, by decide⟩

section Reading

variable {scheme h p : String} {kind : SchemeClass} {u : Url}

/-- A scheme, a host and a path are taken apart. -/
theorem HasClass.exists_cutScheme? (hscheme : HasClass scheme kind) (h p : String) :
    ∃ tail, cutScheme? (cleaned (scheme ++ "://" ++ h ++ "/" ++ p).toList) =
      some (scheme, '/' :: '/' :: (hostChars h ++ '/' :: tail)) := by
  have htext : (scheme ++ "://" ++ h ++ "/" ++ p).toList =
      (scheme.toList ++ ':' :: '/' :: '/' :: h.toList) ++ '/' :: p.toList := by
    simp [String.toList_append]
  have hfront : ∀ c ∈ (scheme.toList ++ ':' :: '/' :: '/' :: h.toList).head?,
      isBlank c = false := by
    cases hcs : scheme.toList with
    | nil =>
      rintro _ ⟨⟩
      rfl
    | cons c cs =>
      rintro _ ⟨⟩
      exact hscheme.not_isBlank _ (hcs ▸ List.mem_cons_self)
  have hfilter : scheme.toList.filter isCounted = scheme.toList :=
    List.filter_eq_self.2 fun c hc => isCounted_of_not_isBlank (hscheme.not_isBlank c hc)
  obtain ⟨tail, htail⟩ := cleaned_append_slash hfront p.toList
  refine ⟨tail, ?_⟩
  rw [htext, htail, List.filter_append, hfilter, List.append_assoc]
  exact hscheme.cutScheme?_eq _

/-- Under a special scheme, a URL is read if its host is, and has this host. -/
theorem exists_parse_special (hscheme : HasClass scheme .special) (hh : IsHostText h) (p : String) :
    ∃ place : Host → Url, (∀ host, (place host).host = some host) ∧
      parse (scheme ++ "://" ++ h ++ "/" ++ p) =
        (Host.parseSpecial (hostChars h)).map place := by
  obtain ⟨tail, htail⟩ := hscheme.exists_cutScheme? h p
  obtain ⟨c, cs, hcs⟩ := List.exists_cons_of_ne_nil hh.ne_nil
  have hslashes : ('/' :: '/' :: (hostChars h ++ '/' :: tail)).dropWhile isSlash =
      hostChars h ++ '/' :: tail := by
    have hc := hh.notMem_signs c (hcs ▸ List.mem_cons_self)
    have hslash : c ≠ '/' := fun heq => hc (heq ▸ by decide)
    have hbackslash : c ≠ '\\' := fun heq => hc (heq ▸ by decide)
    rw [hcs]
    simp [isSlash, hslash, hbackslash]
  refine ⟨fun host => assemble scheme true (some ⟨"", none, some host, none⟩)
    (Path.normalize true ((cutPath ('/' :: tail)).1.drop 1)) (cutPath ('/' :: tail)).2,
    fun host => rfl, ?_⟩
  rw [parse, htail]
  dsimp only
  rw [hscheme.class_eq]
  dsimp only
  rw [parseSpecial, hslashes, Authority.read_hostText hh.whole hh.notMem_signs,
    Authority.readHost, if_pos rfl, if_neg hh.ne_nil]
  cases Host.parseSpecial (hostChars h) <;> rfl

/-- Under a general scheme as well, but the host may be none. -/
theorem exists_parse_general (hscheme : HasClass scheme .general) (hh : IsHostText h) (p : String) :
    ∃ place : Option Host → Url, (∀ host, (place host).host = host) ∧
      parse (scheme ++ "://" ++ h ++ "/" ++ p) =
        (Host.parseGeneral (hostChars h)).map place := by
  obtain ⟨tail, htail⟩ := hscheme.exists_cutScheme? h p
  refine ⟨fun host => assemble scheme false (some ⟨"", none, host, none⟩)
    (generalPath (cutPath ('/' :: tail)).1) (cutPath ('/' :: tail)).2, fun host => rfl, ?_⟩
  rw [parse, htail]
  dsimp only
  rw [hscheme.class_eq]
  dsimp only
  rw [parseGeneral, Authority.read_hostText hh.whole hh.notMem_signs, Authority.readHost,
    if_neg Bool.false_ne_true]
  cases Host.parseGeneral (hostChars h) <;> rfl

/-- Under a special scheme, every spelling of the marker is a host. -/
theorem exists_parse_of_areSpellings (hscheme : HasClass scheme .special) (hh : IsHostText h)
    (hspelled : Host.AreSpellings (hostChars h) rackHost.toList) (p : String) :
    ∃ u, parse (scheme ++ "://" ++ h ++ "/" ++ p) = .ok u := by
  obtain ⟨place, -, hparse⟩ := exists_parse_special hscheme hh p
  have hdomain : Host.domain? (hostChars h) = some rackHost.toList := by
    rw [hspelled.domain?_eq, Host.domain?_of_isOrdinary Host.isOrdinary_rackHost]
  rw [(Host.parseSpecial_eq_name_iff (by decide) (by decide)).2 hdomain] at hparse
  exact ⟨_, hparse⟩

/-- Under a special scheme, a URL points into the rack if its host is read as the domain that is the
marker. -/
theorem isRackTarget_iff_of_special (hscheme : HasClass scheme .special) (hh : IsHostText h)
    (hu : parse (scheme ++ "://" ++ h ++ "/" ++ p) = .ok u) :
    u.isRackTarget = true ↔ Host.domain? (hostChars h) = some rackHost.toList := by
  obtain ⟨place, hplace, hparse⟩ := exists_parse_special hscheme hh p
  obtain ⟨host, hhost, rfl⟩ := exists_of_map_eq_ok (hparse.symm.trans hu)
  have hname : Host.parseSpecial (hostChars h) = .ok (.name (String.ofList rackHost.toList)) ↔
      Host.domain? (hostChars h) = some rackHost.toList :=
    Host.parseSpecial_eq_name_iff (by decide) (by decide)
  rw [String.ofList_toList] at hname
  rw [isRackTarget, hostText, hplace, Option.map_some, beq_iff_eq, Option.some.injEq,
    (Host.isRead_of_parseSpecial hhost).text_eq_rackHost_iff, ← hname, hhost, Except.ok.injEq]

/-- Under a general scheme, a URL points into the rack if its host is written as the marker. -/
theorem isRackTarget_iff_of_general (hscheme : HasClass scheme .general) (hh : IsHostText h)
    (hu : parse (scheme ++ "://" ++ h ++ "/" ++ p) = .ok u) :
    u.isRackTarget = true ↔ hostChars h = rackHost.toList := by
  obtain ⟨place, hplace, hparse⟩ := exists_parse_general hscheme hh p
  obtain ⟨found, hhost, rfl⟩ := exists_of_map_eq_ok (hparse.symm.trans hu)
  have hname : Host.parseGeneral (hostChars h) =
      .ok (some (.name (String.ofList rackHost.toList))) ↔ hostChars h = rackHost.toList :=
    Host.parseGeneral_eq_name_iff (by decide) Host.isOrdinary_rackHost.plain
  rw [String.ofList_toList] at hname
  rw [isRackTarget, hostText, hplace, ← hname, hhost, beq_iff_eq, Except.ok.injEq]
  cases found with
  | none => simp
  | some host =>
    rw [Option.map_some, Option.some.injEq, Option.some.injEq,
      (Host.isRead_of_parseGeneral hhost).text_eq_rackHost_iff]

end Reading

/-- Of two URLs with the same host and path, the one of `http` points into the rack if the host is
read as the domain that is the marker, whatever the spelling, and the one of `tcp` if the host is
written as the marker. So they point to the same place unless the host is another spelling. -/
theorem isRackTarget_of_hostText {h p : String} {u v : Url} (hh : IsHostText h)
    (hu : parse ("http://" ++ h ++ "/" ++ p) = .ok u)
    (hv : parse ("tcp://" ++ h ++ "/" ++ p) = .ok v) :
    (u.isRackTarget = true ↔ Host.domain? (hostChars h) = some rackHost.toList) ∧
    (v.isRackTarget = true ↔ hostChars h = rackHost.toList) ∧
    (v.isRackTarget = true → u.isRackTarget = true) ∧
    (u.isRackTarget = v.isRackTarget ↔
      (Host.domain? (hostChars h) = some rackHost.toList → hostChars h = rackHost.toList)) ∧
    ∀ h' p' u', IsHostText h' → Host.AreSpellings (hostChars h) (hostChars h') →
      parse ("http://" ++ h' ++ "/" ++ p') = .ok u' → u'.isRackTarget = u.isRackTarget := by
  have hhttp {h p : String} {u : Url} (hh : IsHostText h)
      (hu : parse ("http://" ++ h ++ "/" ++ p) = .ok u) :
      u.isRackTarget = true ↔ Host.domain? (hostChars h) = some rackHost.toList :=
    isRackTarget_iff_of_special hasClass_http hh hu
  have htcp : v.isRackTarget = true ↔ hostChars h = rackHost.toList :=
    isRackTarget_iff_of_general hasClass_tcp hh hv
  have himplied : v.isRackTarget = true → u.isRackTarget = true := by
    intro hmarked
    rw [hhttp hh hu, htcp.1 hmarked]
    exact Host.domain?_of_isOrdinary Host.isOrdinary_rackHost
  refine ⟨hhttp hh hu, htcp, himplied, ?_, fun h' p' u' hh' hspelled hu' => ?_⟩
  · rw [← hhttp hh hu, ← htcp, Bool.eq_iff_iff]
    exact ⟨fun h => h.1, fun h => ⟨h, himplied⟩⟩
  · rw [Bool.eq_iff_iff, hhttp hh' hu', hhttp hh hu, hspelled.domain?_eq]

/-- The marker under both schemes, and with an encoded letter under `http`. -/
theorem isRackTarget_of_encodedLetter :
    IsHostText "rack" ∧ IsHostText "r%61ck" ∧
    ∃ u v u', parse ("http://" ++ "rack" ++ "/" ++ "a") = .ok u ∧
      parse ("tcp://" ++ "rack" ++ "/" ++ "a") = .ok v ∧
        parse ("http://" ++ "r%61ck" ++ "/" ++ "b") = .ok u' ∧
          u.isRackTarget = true ∧ v.isRackTarget = true ∧ u'.isRackTarget = true := by
  have hplain : IsHostText "rack" := .of_isNameChar (by decide) (by decide)
  have hencoded : IsHostText "r%61ck" := .of_isNameChar (by decide) (by decide)
  have hown : Host.AreSpellings (hostChars "rack") rackHost.toList := .of_toLower_eq rfl
  have hletter : Percent.encode (· == 'a') rackHost.toList = hostChars "r%61ck" := by decide
  have hother : Host.AreSpellings (hostChars "r%61ck") rackHost.toList :=
    hletter ▸ .encode _ (by decide) (by decide)
  have hspelled : Host.AreSpellings (hostChars "rack") (hostChars "r%61ck") :=
    ⟨hown.bytes_eq.trans hother.bytes_eq.symm, hown.bracket_iff.trans hother.bracket_iff.symm⟩
  obtain ⟨u, hu⟩ := exists_parse_of_areSpellings hasClass_http hplain hown "a"
  obtain ⟨u', hu'⟩ := exists_parse_of_areSpellings hasClass_http hencoded hother "b"
  obtain ⟨v, hv⟩ : ∃ v, parse ("tcp://" ++ "rack" ++ "/" ++ "a") = .ok v :=
    ⟨⟨"tcp", some ⟨"", none, some (.name "rack"), none⟩, "/a", none, none⟩, by decide +kernel⟩
  obtain ⟨-, htcp, himplied, -, hspellings⟩ := isRackTarget_of_hostText hplain hu hv
  have hmarked : v.isRackTarget = true := htcp.2 (by decide)
  have hsame := hspellings "r%61ck" "b" u' hencoded hspelled hu'
  exact ⟨hplain, hencoded, u, v, u', hu, hv, hu', himplied hmarked, hmarked,
    hsame.trans (himplied hmarked)⟩

/-- In upper case, the marker is one under `http` and none under `tcp`. -/
theorem unmarked_in_upper_case :
    ∃ u v, parse "http://RACK/a/service/web:1" = .ok u ∧
      parse "tcp://RACK/a/service/web:1" = .ok v ∧
        u.isRackTarget = true ∧ v.isRackTarget = false := by
  have hh : IsHostText "RACK" := .of_isNameChar (by decide) (by decide)
  have hspelled : Host.AreSpellings (hostChars "RACK") rackHost.toList := .of_toLower_eq (by decide)
  obtain ⟨u, hu⟩ := exists_parse_of_areSpellings hasClass_http hh hspelled "a/service/web:1"
  have hmarked := isRackTarget_iff_of_special hasClass_http hh hu
  refine ⟨u, ⟨"tcp", some ⟨"", none, some (.name "RACK"), none⟩, "/a/service/web:1", none, none⟩,
    hu, by decide +kernel, hmarked.2 ?_, by decide⟩
  rw [hspelled.domain?_eq, Host.domain?_of_isOrdinary Host.isOrdinary_rackHost]

end Url

end Gatehouse
