import Gatehouse.Proofs.Url.Hosts

/-!
# Authorities that are written and read back

An authority that has been read has a port only if it has a host, and the port is below 65536. The
text of a host with a port behind it is read as an authority of that host and port, where a port
that is the default of the scheme is left out.

## Main definitions

* `Authority.IsRead`: the authorities that schemes of a class have.
* `Authority.ofHost`: the authority of a host and a port.

## Main results

* `Authority.isRead_of_read`: only such authorities are read.
* `Authority.cutHost_text`: a host is cut off in front of the colon of the port.
* `Authority.read_host`: a host and a port are read back.
* `Url.authority_of_parse`: the authority of a URL is one that has been read.
* `Url.exists_host_of_port`: a URL with a port has a host.
-/

namespace Gatehouse

namespace Authority

/-! ### The authorities that are read -/

/-- An authority that a scheme has, by the class of the scheme. -/
structure IsRead (special : Bool) (x : Authority) : Prop where
  host : ∀ h, x.host = some h → h.IsRead special
  special_host : special = true → x.host ≠ none
  port_host : x.port ≠ none → x.host ≠ none
  port_lt : ∀ p, x.port = some p → p < 65536

theorem lt_of_readPort {scheme : String} {cs after : List Char} {port : Nat}
    (h : readPort scheme cs = .ok (some port, after)) : port < 65536 := by
  unfold readPort at h
  split at h
  · extract_lets digits after' at h
    split at h
    · cases h
    · split at h
      · next p hread =>
        split at hread
        · obtain ⟨hkept, -⟩ := Prod.mk.inj (Except.ok.inj h)
          split at hkept
          · cases hkept
          · cases hkept
            exact Numeral.lt_of_read (by decide) hread
        · cases hread
      · cases h
  · cases h

/-- An authority consists of what its user, its host and its port are read as, and the text of the
port is empty if there is no host. -/
theorem exists_of_read {scheme : String} {special : Bool} {cs rest : List Char} {x : Authority}
    (h : read scheme special cs = .ok (x, rest)) :
    ∃ userText hostText portText after, readUser userText = (x.username, x.password) ∧
      readHost special hostText = .ok x.host ∧ (x.host = none → portText = []) ∧
      readPort scheme portText = .ok (x.port, after) := by
  unfold read at h
  extract_lets region tail at h
  split at h
  next user place _ =>
    split at h
    · cases h
    split at h
    next hostText portText _ =>
      split at h
      next username password huser =>
        split at h
        · cases h
        next host hhost =>
          split at h
          · cases h
          next hempty =>
            split at h
            · cases h
            next port after hport =>
              split at h
              · cases h
              · cases h
                exact ⟨user.getD [], hostText, portText, after, huser, hhost,
                  fun hnone => not_not.1 fun hne => hempty ⟨hnone, hne⟩, hport⟩

/-- Only such authorities are read. -/
theorem isRead_of_read {scheme : String} {special : Bool} {cs rest : List Char} {x : Authority}
    (h : read scheme special cs = .ok (x, rest)) : x.IsRead special := by
  obtain ⟨-, hostText, portText, after, -, hhost, hempty, hport⟩ := exists_of_read h
  refine ⟨fun host hsome => ?_, fun hspecial hnone => ?_, fun hne hnone => hne ?_, fun p hp => ?_⟩
  · exact Host.isRead_of_readHost (hsome ▸ hhost)
  · rw [hnone, hspecial, readHost, if_pos rfl] at hhost
    split at hhost
    · cases hhost
    · obtain ⟨host, -, hsome⟩ := exists_of_map_eq_ok hhost
      cases hsome
  · rw [hempty hnone] at hport
    exact (Prod.mk.inj (Except.ok.inj hport)).1.symm
  · exact lt_of_readPort (hp ▸ hport)

/-! ### Cutting off the host -/

open Host (isNameChar isTextChar)

/-- No characters of names are cut off. -/
theorem cutHost_append {cs : List Char} (h : ∀ c ∈ cs, isNameChar c = true) (rest : List Char) :
    cutHost false (cs ++ rest) = (cs ++ (cutHost false rest).1, (cutHost false rest).2) := by
  induction cs with
  | nil => rfl
  | cons c cs ih =>
    obtain ⟨hc, hcs⟩ := List.forall_mem_cons.1 h
    have hcolon : c ≠ ':' := Host.ne_of_class hc (by decide)
    have hopen : c ≠ '[' := Host.ne_of_class hc (by decide)
    rw [List.cons_append, cutHost, if_neg fun hand => hcolon hand.1]
    simp only [hopen, if_false, ite_self, ih hcs]
    rfl

theorem cutHost_name {cs : List Char} (h : ∀ c ∈ cs, isNameChar c = true) (rest : List Char) :
    cutHost false (cs ++ ':' :: rest) = (cs, ':' :: rest) := by
  have hcolon : cutHost false (':' :: rest) = ([], ':' :: rest) := rfl
  rw [cutHost_append h, hcolon, List.append_nil]

/-- Nothing is cut inside of brackets. -/
theorem cutHost_bracketed {cs : List Char} (h : ']' ∉ cs) (rest : List Char) :
    cutHost true (cs ++ ']' :: ':' :: rest) = (cs ++ [']'], ':' :: rest) := by
  induction cs with
  | nil => rfl
  | cons c cs ih =>
    obtain ⟨hne, hcs⟩ := not_or.1 (mt List.mem_cons.2 h)
    rw [List.cons_append, cutHost, if_neg fun hand => Bool.noConfusion hand.2]
    simp only [Ne.symm hne, if_false, ite_self, ih hcs]
    rfl

/-- A host is cut off in front of the colon of the port. -/
theorem cutHost_text {special : Bool} {host : Host} (h : host.IsRead special) (rest : List Char) :
    cutHost false (host.text.toList ++ ':' :: rest) = (host.text.toList, ':' :: rest) := by
  rcases h.text_cases with hname | ⟨x, htext⟩
  · exact cutHost_name hname rest
  · have hclosing : ']' ∉ x.groupsText := by
      intro hmem
      rcases Ipv6.mem_groupsText hmem with hcolon | ⟨d, hd, hdigit⟩
      · exact absurd hcolon (by decide)
      · exact Host.ne_of_class (Host.isNameChar_digitChar hd) (by decide) hdigit.symm
    have hinside := cutHost_bracketed hclosing rest
    rw [htext, List.cons_append, List.cons_append, List.append_assoc, cutHost,
      if_neg fun hand => absurd hand.1 (by decide)]
    simp only [if_true, List.singleton_append, hinside]

/-! ### Reading back -/

/-- The authority of a host and a port, which is left out if it is the default of the scheme. -/
def ofHost (scheme : String) (host : Host) (port : Nat) : Authority :=
  ⟨"", none, some host, if some port = defaultPort? scheme then none else some port⟩

theorem readPort_digits (scheme : String) {port : Nat} (h : port < 65536) :
    readPort scheme (':' :: Numeral.digits port) =
      .ok (if some port = defaultPort? scheme then none else some port, []) := by
  have hbackslash : ∀ c ∈ Numeral.digits port, (c != '\\') = true := by
    intro c hc
    refine bne_iff_ne.2 fun heq => ?_
    rw [heq] at hc
    exact absurd (Numeral.isSome_digit?_of_mem_digits hc) (by decide)
  have hdigits : (Numeral.digits port).all (fun c => (Numeral.digit? c).isSome) = true :=
    List.all_eq_true.2 fun c hc => Numeral.isSome_digit?_of_mem_digits hc
  have hread : Numeral.readPort (Numeral.digits port) = .ok port := Numeral.read_digits h
  rw [readPort, List.takeWhile_eq_self_iff.2 hbackslash, List.dropWhile_eq_nil_iff.2 hbackslash]
  rw [if_neg (Numeral.digits_ne_nil port), if_pos hdigits, hread]

/-- The characters of a host and a port. -/
theorem isTextChar_of_mem {special : Bool} {host : Host} (h : host.IsRead special) (port : Nat) :
    ∀ c ∈ host.text.toList ++ ':' :: Numeral.digits port, isTextChar c = true := by
  intro c hc
  rcases List.mem_append.1 hc with hc | hc
  · exact h.isTextChar c hc
  · rcases List.mem_cons.1 hc with rfl | hc
    · decide
    · obtain ⟨d, hd, rfl⟩ := Numeral.exists_digit_of_mem_toDigits (by decide) hc
      exact Host.isTextChar_of_isNameChar (Host.isNameChar_digitChar (Nat.lt_trans hd (by decide)))

theorem isEnd_of_isTextChar {c : Char} (h : isTextChar c = true) (special : Bool) :
    (!isEnd special c) = true := by
  have hslash : c ≠ '/' := Host.ne_of_class h (by decide)
  have hquestion : c ≠ '?' := Host.ne_of_class h (by decide)
  have hnumber : c ≠ '#' := Host.ne_of_class h (by decide)
  have hbackslash : c ≠ '\\' := Host.ne_of_class h (by decide)
  simp [isEnd, hslash, hquestion, hnumber, hbackslash]

/-- A host and a port are read back. -/
theorem read_host {scheme : String} {special : Bool} {host : Host} (hhost : host.IsRead special)
    (hback : host.ReadsBack special) {port : Nat} (hport : port < 65536) :
    read scheme special (host.text.toList ++ ':' :: Numeral.digits port) =
      .ok (ofHost scheme host port, []) := by
  have htext : ∀ c ∈ host.text.toList ++ ':' :: Numeral.digits port, isTextChar c = true :=
    isTextChar_of_mem hhost port
  have hend : ∀ c ∈ host.text.toList ++ ':' :: Numeral.digits port, (!isEnd special c) = true :=
    fun c hc => isEnd_of_isTextChar (htext c hc) special
  have hsign : '@' ∉ host.text.toList ++ ':' :: Numeral.digits port :=
    fun hmem => absurd (htext '@' hmem) (by decide)
  have huser : readUser [] = ("", none) := rfl
  rw [read, List.takeWhile_eq_self_iff.2 hend, List.dropWhile_eq_nil_iff.2 hend,
    Text.cutLast_of_notMem hsign]
  dsimp only
  rw [cutHost_text hhost, Option.getD_none, huser, hback, readPort_digits scheme hport]
  simp [ofHost]

end Authority

namespace Url

/-! ### Whole URLs -/

variable {scheme : String} {cs : List Char} {u : Url}

theorem authority_of_parseSpecial (h : parseSpecial scheme cs = .ok u) :
    u.scheme = scheme ∧ ∃ x, u.authority = some x ∧ x.IsRead true := by
  obtain ⟨⟨x, rest⟩, hread, rfl⟩ := exists_of_map_eq_ok h
  exact ⟨rfl, x, rfl, Authority.isRead_of_read hread⟩

theorem scheme_of_parseFile (h : parseFile cs = .ok u) : u.scheme = "file" := by
  obtain ⟨host, path, tail, rfl, -⟩ := exists_of_parseFile h
  rfl

/-- The URL of a file has no port. -/
theorem portOrDefault_of_parseFile (h : parseFile cs = .ok u) : u.portOrDefault = none := by
  obtain ⟨host, path, tail, rfl, -⟩ := exists_of_parseFile h
  rfl

theorem authority_of_parseGeneral (h : parseGeneral scheme cs = .ok u) :
    u.scheme = scheme ∧ ∀ x, u.authority = some x → x.IsRead false := by
  unfold parseGeneral at h
  split at h
  · obtain ⟨⟨x, rest⟩, hread, rfl⟩ := exists_of_map_eq_ok h
    exact ⟨rfl, fun y hy => Option.some.inj hy ▸ Authority.isRead_of_read hread⟩
  · cases h
    exact ⟨rfl, fun x hx => absurd hx (Option.some_ne_none x).symm⟩
  · cases h
    exact ⟨rfl, fun x hx => absurd hx (Option.some_ne_none x).symm⟩

/-- The authority of a URL is one that has been read, and a URL of a special scheme has one. Files
have hosts of their own kind. -/
theorem authority_of_parse {s : String} (h : parse s = .ok u) (hfile : u.scheme ≠ "file") :
    (∀ x, u.authority = some x → x.IsRead (SchemeClass.of u.scheme).isSpecial) ∧
      ((SchemeClass.of u.scheme).isSpecial = true → u.authority ≠ none) := by
  unfold parse at h
  split at h
  · cases h
  · split at h
    next hclass =>
      obtain ⟨rfl, x, hx, hread⟩ := authority_of_parseSpecial h
      rw [hclass, hx]
      exact ⟨fun y hy => Option.some.inj hy ▸ hread, fun _ => Option.some_ne_none x⟩
    next => exact absurd (scheme_of_parseFile h) hfile
    next hclass =>
      obtain ⟨rfl, hread⟩ := authority_of_parseGeneral h
      rw [hclass]
      exact ⟨hread, fun hspecial => Bool.noConfusion hspecial⟩

theorem portOrDefault_of_file {s : String} (h : parse s = .ok u) (hfile : u.scheme = "file") :
    u.portOrDefault = none := by
  unfold parse at h
  split at h
  · cases h
  · split at h
    next hclass =>
      obtain ⟨rfl, -⟩ := authority_of_parseSpecial h
      rw [hfile] at hclass
      exact absurd hclass (by decide)
    next => exact portOrDefault_of_parseFile h
    next hclass =>
      obtain ⟨rfl, -⟩ := authority_of_parseGeneral h
      rw [hfile] at hclass
      exact absurd hclass (by decide)

theorem lt_of_defaultPort? {port : Nat} (h : defaultPort? scheme = some port) : port < 65536 := by
  unfold defaultPort? at h
  split_ifs at h <;> cases h <;> decide

theorem isSpecial_of_defaultPort? (h : defaultPort? scheme ≠ none) :
    (SchemeClass.of scheme).isSpecial = true := by
  unfold defaultPort? at h
  split_ifs at h with hhttp hhttps hftp
  · rcases hhttp with rfl | rfl <;> rfl
  · rcases hhttps with rfl | rfl <;> rfl
  · exact hftp ▸ rfl
  · exact absurd rfl h

/-- A port is written, or implied by the scheme. -/
theorem port_cases {port : Nat} (h : u.portOrDefault = some port) :
    u.port = some port ∨ defaultPort? u.scheme = some port := by
  unfold portOrDefault at h
  split at h
  next p hp => exact .inl (hp.trans h)
  next => exact .inr h

/-- A URL with a port has a host: a scheme that implies a port needs a host, and so does a port that
is written. -/
theorem exists_host_of_port {s : String} {port : Nat} (h : parse s = .ok u)
    (hport : u.portOrDefault = some port) :
    ∃ host, u.host = some host ∧ host.IsRead (SchemeClass.of u.scheme).isSpecial ∧
      port < 65536 := by
  have hfile : u.scheme ≠ "file" := fun hfile =>
    Option.some_ne_none port (hport.symm.trans (portOrDefault_of_file h hfile))
  obtain ⟨hread, hspecial⟩ := authority_of_parse h hfile
  have hauthority : ∃ x, u.authority = some x ∧ x.host ≠ none := by
    rcases port_cases hport with hport | hport
    · obtain ⟨x, hx, hwritten⟩ := Option.bind_eq_some_iff.1 hport
      exact ⟨x, hx, (hread x hx).port_host (hwritten ▸ Option.some_ne_none _)⟩
    · have hclass := isSpecial_of_defaultPort? (hport ▸ Option.some_ne_none _)
      obtain ⟨x, hx⟩ := Option.ne_none_iff_exists'.1 (hspecial hclass)
      exact ⟨x, hx, (hread x hx).special_host hclass⟩
  obtain ⟨x, hx, hne⟩ := hauthority
  obtain ⟨host, hhost⟩ := Option.ne_none_iff_exists'.1 hne
  refine ⟨host, by rw [Url.host, hx, Option.bind_some, hhost], (hread x hx).host host hhost, ?_⟩
  rcases port_cases hport with hport | hport
  · rw [Url.port, hx, Option.bind_some] at hport
    exact (hread x hx).port_lt _ hport
  · exact lt_of_defaultPort? hport

/-- Text without blanks is read as it is. -/
theorem cleaned_eq_self (h : ∀ c ∈ cs, isBlank c = false) : cleaned cs = cs := by
  have htrim : ∀ cs : List Char, (∀ c ∈ cs, isBlank c = false) → cs.dropWhile isBlank = cs := by
    intro cs hcs
    cases cs with
    | nil => rfl
    | cons c cs => rw [List.dropWhile_cons_of_neg (by simp [hcs c (.head _)])]
  have hkept : ∀ c ∈ cs, (c != '\t' && c != '\n' && c != '\r') = true := by
    intro c hc
    have htab : c ≠ '\t' := (Host.ne_of_class (by decide) (h c hc)).symm
    have hline : c ≠ '\n' := (Host.ne_of_class (by decide) (h c hc)).symm
    have hreturn : c ≠ '\r' := (Host.ne_of_class (by decide) (h c hc)).symm
    simp [htab, hline, hreturn]
  rw [cleaned, Text.trim, htrim cs h, Text.trimRight,
    htrim cs.reverse fun c hc => h c (List.mem_reverse.1 hc), List.reverse_reverse,
    List.filter_eq_self.2 hkept]

/-- The URL of a host and a port. -/
def ofHost (scheme : String) (host : Host) (port : Nat) : Url where
  scheme
  authority := some (Authority.ofHost scheme host port)
  path := if (SchemeClass.of scheme).isSpecial then "/" else ""
  query := none
  fragment := none

/-- A port that is left out is the one that the scheme implies. -/
theorem portOrDefault_ofHost (scheme : String) (host : Host) (port : Nat) :
    (ofHost scheme host port).portOrDefault = some port := by
  have hport : (ofHost scheme host port).port =
      if some port = defaultPort? scheme then none else some port := rfl
  rw [portOrDefault, hport]
  split_ifs with hdefault
  · exact hdefault.symm
  · rfl

theorem isBlank_of_isTextChar {c : Char} (h : Host.isTextChar c = true) : isBlank c = false := by
  simp only [Host.isTextChar, Bool.or_eq_true, beq_iff_eq] at h
  rcases h with ((hname | rfl) | rfl) | rfl
  · simpa using (Bool.and_eq_true_iff.1 hname).1
  · decide
  · decide
  · decide

section Reading

variable {host : Host} {port : Nat}

theorem parseSpecial_host (hclass : SchemeClass.of scheme = .special) (hhost : host.IsRead true)
    (hback : host.ReadsBack true) (hport : port < 65536) :
    parseSpecial scheme ('/' :: '/' :: (host.text.toList ++ ':' :: Numeral.digits port)) =
      .ok (ofHost scheme host port) := by
  have hslashes : ('/' :: '/' :: (host.text.toList ++ ':' :: Numeral.digits port)).dropWhile
      isSlash = host.text.toList ++ ':' :: Numeral.digits port := by
    have hchars := Authority.isTextChar_of_mem hhost port
    obtain ⟨c, cs, hcs⟩ := List.exists_cons_of_ne_nil
      (l := host.text.toList ++ ':' :: Numeral.digits port) (by simp)
    have hc := hchars c (hcs ▸ List.mem_cons_self)
    have hslash : c ≠ '/' := Host.ne_of_class hc (by decide)
    have hbackslash : c ≠ '\\' := Host.ne_of_class hc (by decide)
    rw [hcs]
    simp [isSlash, hslash, hbackslash]
  rw [parseSpecial, hslashes, Authority.read_host hhost hback hport, ofHost, hclass]
  rfl

theorem parseGeneral_host (hclass : SchemeClass.of scheme = .general) (hhost : host.IsRead false)
    (hback : host.ReadsBack false) (hport : port < 65536) :
    parseGeneral scheme ('/' :: '/' :: (host.text.toList ++ ':' :: Numeral.digits port)) =
      .ok (ofHost scheme host port) := by
  rw [parseGeneral, Authority.read_host hhost hback hport, ofHost, hclass]
  rfl

/-- A scheme, a host and a port are read back. -/
theorem parse_host
    (hscheme : ∀ rest, cutScheme? (scheme.toList ++ ':' :: rest) = some (scheme, rest))
    (hblank : scheme.toList.any isBlank = false) (hfile : SchemeClass.of scheme ≠ .file)
    (hhost : host.IsRead (SchemeClass.of scheme).isSpecial)
    (hback : host.ReadsBack (SchemeClass.of scheme).isSpecial) (hport : port < 65536) :
    parse (scheme ++ "://" ++ (host.text ++ ":" ++ toString port)) =
      .ok (ofHost scheme host port) := by
  have hdigits : (toString port).toList = Numeral.digits port := Nat.toList_repr
  have htext : (scheme ++ "://" ++ (host.text ++ ":" ++ toString port)).toList =
      scheme.toList ++ ':' :: '/' :: '/' :: (host.text.toList ++ ':' :: Numeral.digits port) := by
    simp only [String.toList_append, hdigits, List.append_assoc]
    rfl
  have hclean : ∀ c ∈ scheme.toList ++
      ':' :: '/' :: '/' :: (host.text.toList ++ ':' :: Numeral.digits port),
      isBlank c = false := by
    intro c hc
    simp only [List.mem_append (s := scheme.toList), List.mem_cons (b := ':'),
      List.mem_cons (b := '/')] at hc
    rcases hc with hc | rfl | rfl | rfl | hc
    · exact Bool.not_eq_true _ ▸ List.any_eq_false.1 hblank c hc
    · decide
    · decide
    · decide
    · exact isBlank_of_isTextChar (Authority.isTextChar_of_mem hhost port c hc)
  rw [parse, htext, cleaned_eq_self hclean, hscheme]
  dsimp only
  cases hclass : SchemeClass.of scheme with
  | file => exact absurd hclass hfile
  | special =>
    rw [hclass] at hhost hback
    exact parseSpecial_host hclass hhost hback hport
  | general =>
    rw [hclass] at hhost hback
    exact parseGeneral_host hclass hhost hback hport

end Reading

end Url

end Gatehouse
