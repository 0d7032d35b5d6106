import Gatehouse.Http.Uri
import Gatehouse.Proofs.Text.Cutting
import Mathlib.Data.List.TakeWhile

/-!
# Which texts are request targets

A target is an asterisk, a path with a query, an authority, or an absolute text in which the path
may be missing. A path that starts with a slash is read back as it is written, together with a
query, as long as it is not too long. A query without a path in front of it is no target.

## Main definitions

* `Uri.IsPath`, `Uri.IsQuery`: the texts that may stand in a path and in a query.
* `Uri.written`: a path with a query.
* `Uri.Form`: the forms of targets.
* `Uri.IsProper`: an authority alone has neither a path nor a query.

## Main results

* `Uri.form_of_parse?`: every text that is read has one of the forms.
* `Uri.parse?_written`: a path with a query is read back.
* `Uri.parse?_written_nil`: a query alone is not read.
-/

namespace Gatehouse

namespace Uri

/-- All characters may stand in a path. -/
def IsPath (s : String) : Prop := ∀ c ∈ s.toList, isPathChar c = true

/-- All characters may stand in a query. -/
def IsQuery (s : String) : Prop := ∀ c ∈ s.toList, isQueryChar c = true

/-- A text starts with a slash. -/
def IsRooted (s : String) : Prop := s.toList.head? = some '/'

instance (s : String) : Decidable (IsPath s) :=
  List.decidableBAll (fun c => isPathChar c = true) s.toList

instance (s : String) : Decidable (IsRooted s) := inferInstanceAs (Decidable (_ = _))

/-- A path with a query. -/
def written (path : String) : Option String → String
  | some query => path ++ "?" ++ query
  | none => path

theorem toList_written_some (path query : String) :
    (written path (some query)).toList = path.toList ++ '?' :: query.toList := by
  simp [written]

theorem IsRooted.ne_empty {s : String} (h : IsRooted s) : s ≠ "" := by
  rintro rfl
  cases h

theorem IsRooted.written {path : String} (h : IsRooted path) (query : Option String) :
    IsRooted (written path query) := by
  cases query with
  | none => exact h
  | some q =>
    obtain ⟨rest, hpath⟩ := List.head?_eq_some_iff.1 h
    rw [IsRooted, toList_written_some, hpath]
    rfl

theorem IsPath.question_notMem {path : String} (h : IsPath path) : '?' ∉ path.toList :=
  fun hmem => absurd (h _ hmem) (by decide)

/-- A path with a query is cut between the two. -/
theorem cutFirst_written {path : String} (hpath : '?' ∉ path.toList) (query : Option String) :
    Text.cutFirst '?' (written path query).toList =
      query.map fun q => (path.toList, q.toList) := by
  cases query with
  | none => exact Text.cutFirst_eq_none_iff.2 hpath
  | some q =>
    rw [toList_written_some]
    exact Text.cutFirst_append hpath q.toList

/-- No path with a query has a number sign. -/
theorem takeWhile_written {path : String} {query : Option String} (hpath : IsPath path)
    (hquery : ∀ q ∈ query, IsQuery q) :
    (written path query).toList.takeWhile (· != '#') = (written path query).toList := by
  have hpath' : ∀ c ∈ path.toList, (c != '#') = true := fun c hc => by
    rw [bne_iff_ne]
    rintro rfl
    exact absurd (hpath _ hc) (by decide)
  refine List.takeWhile_eq_self_iff.2 fun c hc => ?_
  cases query with
  | none => exact hpath' c hc
  | some q =>
    rw [toList_written_some, List.mem_append, List.mem_cons] at hc
    rcases hc with hc | rfl | hc
    · exact hpath' c hc
    · rfl
    · rw [bne_iff_ne]
      rintro rfl
      exact absurd (hquery q rfl _ hc) (by decide)

/-! ### Reading a path with a query -/

variable {scheme : Option String} {authority : String} {u : Uri}

/-- A path with a query is read back. -/
theorem readPath_written {path : String} {query : Option String} (hpath : IsPath path)
    (hquery : ∀ q ∈ query, IsQuery q) :
    readPath scheme authority (written path query).toList =
      some ⟨scheme, authority, path, query⟩ := by
  unfold readPath
  rw [takeWhile_written hpath hquery]
  have hcut := cutFirst_written hpath.question_notMem query
  have hall : path.toList.all isPathChar = true := List.all_eq_true.2 hpath
  cases query with
  | none =>
    simp only [written, Option.map_none] at hcut ⊢
    simp only [hcut, hall, if_true, String.ofList_toList]
  | some q =>
    have hall' : q.toList.all isQueryChar = true := List.all_eq_true.2 (hquery q rfl)
    rw [Option.map_some] at hcut
    simp only [hcut, hall, hall', Bool.and_self, if_true, String.ofList_toList]

/-- What is read of a text is a path with a query, up to a number sign. -/
theorem exists_written_of_readPath {cs : List Char} (h : readPath scheme authority cs = some u) :
    ∃ path query, u = ⟨scheme, authority, path, query⟩ ∧ IsPath path ∧
      (∀ q ∈ query, IsQuery q) ∧ (written path query).toList = cs.takeWhile (· != '#') := by
  unfold readPath at h
  dsimp only at h
  split at h
  next hcut =>
    split_ifs at h with hpath
    cases h
    refine ⟨_, none, rfl, ?_, nofun, String.toList_ofList⟩
    simpa [IsPath] using hpath
  next path query hcut =>
    split_ifs at h with hall
    cases h
    obtain ⟨hpath, hquery⟩ := Bool.and_eq_true_iff.1 hall
    refine ⟨_, _, rfl, ?_, ?_, ?_⟩
    · simpa [IsPath] using hpath
    · intro q hq
      cases hq
      simpa [IsQuery] using hquery
    · rw [toList_written_some, String.toList_ofList, String.toList_ofList]
      exact (Text.cutFirst_eq_some_iff.1 hcut).1.symm

/-! ### The forms of targets -/

/-- The forms of targets. -/
inductive Form : Uri → Prop where
  | asterisk : Form ⟨none, "", "*", none⟩
  | origin {path : String} {query : Option String} (hpath : IsPath path) (hrooted : IsRooted path)
      (hquery : ∀ q ∈ query, IsQuery q) : Form ⟨none, "", path, query⟩
  | authority {authority : String} (hauthority : authority ≠ "") : Form ⟨none, authority, "", none⟩
  | absolute {scheme authority path : String} {query : Option String} (hpath : IsPath path)
      (hrooted : path = "" ∨ IsRooted path) (hquery : ∀ q ∈ query, IsQuery q) :
      Form ⟨some scheme, authority, path, query⟩

theorem Form.isPath (h : u.Form) : IsPath u.path := by
  have hempty : IsPath "" := by decide
  have hroot : IsPath "/" := by decide
  cases h with
  | asterisk => decide
  | origin hpath hrooted =>
    rw [path, if_pos hrooted.ne_empty]
    exact hpath
  | authority => exact hempty
  | absolute hpath =>
    unfold path
    split_ifs
    · exact hpath
    · exact hempty
    · exact hroot

theorem Form.isQuery (h : u.Form) : ∀ q ∈ u.query, IsQuery q := by
  cases h with
  | asterisk => exact nofun
  | origin _ _ hquery => exact hquery
  | authority => exact nofun
  | absolute _ _ hquery => exact hquery

/-- An authority alone has neither a path nor a query. -/
def IsProper (u : Uri) : Prop :=
  u.scheme = none → u.authority ≠ "" → u.pathText = "" ∧ u.query = none

theorem Form.isProper (h : u.Form) : u.IsProper := by
  cases h with
  | asterisk => exact fun _ hauthority => absurd rfl hauthority
  | origin => exact fun _ hauthority => absurd rfl hauthority
  | authority => exact fun _ _ => ⟨rfl, rfl⟩
  | absolute => exact nofun

/-- A path is rooted if it starts a text that starts with a slash. -/
theorem isRooted_of_written {path : String} {query : Option String}
    (h : (written path query).toList.head? = some '/') : IsRooted path := by
  cases query with
  | none => exact h
  | some q =>
    rw [toList_written_some] at h
    unfold IsRooted
    cases hpath : path.toList with
    | nil =>
      rw [hpath] at h
      cases h
    | cons c rest =>
      rw [hpath] at h
      exact h

/-- A path behind an authority is rooted, unless it is missing. -/
theorem isRooted_of_behind {path : String} {query : Option String} {behind : List Char}
    (hpath : IsPath path) (hbehind : ∀ c ∈ behind.head?, endsAuthority c = true)
    (h : (written path query).toList = behind.takeWhile (· != '#')) :
    path = "" ∨ IsRooted path := by
  cases hcs : path.toList with
  | nil => exact .inl (String.toList_eq_nil_iff.1 hcs)
  | cons c rest =>
    have hfirst : (written path query).toList.head? = some c := by
      cases query <;> simp [written, hcs]
    have hhead : behind.head? = some c := by
      cases behind with
      | nil =>
        rw [h] at hfirst
        cases hfirst
      | cons d behind =>
        rw [h, List.takeWhile_cons] at hfirst
        split at hfirst
        next => exact hfirst
        next => cases hfirst
    -- Of the characters that end an authority, only the slash may stand in a path.
    have hc : isPathChar c = true := hpath c (hcs ▸ .head _)
    have hends : c = '/' ∨ c = '?' ∨ c = '#' := by simpa [endsAuthority] using hbehind c hhead
    rcases hends with rfl | rfl | rfl
    · exact .inr (congrArg List.head? hcs)
    · exact absurd hc (by decide)
    · exact absurd hc (by decide)

/-- What follows a scheme is not longer than the text, and the whole text without a scheme. -/
theorem length_le_of_readScheme {cs rest : List Char} (h : readScheme cs = some (scheme, rest)) :
    rest.length ≤ cs.length ∧ (scheme = none → rest = cs) := by
  have hdrop := (List.dropWhile_suffix (l := cs) isSchemeChar).length_le
  unfold readScheme at h
  split at h
  next hrest =>
    rw [hrest] at hdrop
    simp only [List.length_cons] at hdrop
    dsimp only at h
    split_ifs at h <;> cases h <;> exact ⟨by omega, nofun⟩
  next =>
    cases h
    exact ⟨Nat.le_refl _, fun _ => rfl⟩

/-- What is read of a text that starts with a scheme or an authority. -/
theorem form_of_readFull {cs : List Char} (hcs : cs ≠ []) (h : readFull cs = some u) :
    u.Form ∧ (written u.pathText u.query).toList.length ≤ cs.length := by
  unfold readFull at h
  split at h
  next => cases h
  next scheme rest hscheme =>
    obtain ⟨hlength, hwhole⟩ := length_le_of_readScheme hscheme
    dsimp only at h
    split_ifs at h with hauthority hnone hbehind hempty
    · cases h
      refine ⟨.authority fun hnil => hcs ?_, Nat.zero_le _⟩
      have hsplit := List.takeWhile_append_dropWhile (p := fun c => !endsAuthority c) (l := rest)
      rw [hbehind, String.ofList_eq_empty_iff.1 hnil] at hsplit
      rw [← hwhole (Option.isNone_iff_eq_none.1 hnone), ← hsplit]
      rfl
    · obtain ⟨path, query, rfl, hpath, hquery, hwritten⟩ := exists_written_of_readPath h
      obtain ⟨name, rfl⟩ := Option.ne_none_iff_exists'.1 (mt Option.isNone_iff_eq_none.2 hnone)
      have hbehind : ∀ c ∈ (rest.dropWhile fun c => !endsAuthority c).head?,
          endsAuthority c = true := fun c hc => by
        have hfirst := List.head?_dropWhile_not (fun c => !endsAuthority c) rest
        rw [Option.mem_def.1 hc] at hfirst
        simpa using hfirst
      refine ⟨.absolute hpath (isRooted_of_behind hpath hbehind hwritten) hquery, ?_⟩
      rw [hwritten]
      exact ((List.takeWhile_prefix _).length_le.trans (List.dropWhile_suffix _).length_le).trans
        hlength

/-- Every text that is read has one of the forms. Its path with the query is not longer than a
target may be. -/
theorem form_of_parse? {text : String} (h : parse? text = some u) :
    u.Form ∧ (written u.pathText u.query).toList.length ≤ maxLength := by
  unfold parse? at h
  dsimp only at h
  split_ifs at h with hlong
  have hlong := Nat.le_of_not_lt hlong
  split at h
  next => cases h
  next =>
    cases h
    exact ⟨.asterisk, by decide⟩
  next rest hcs =>
    obtain ⟨path, query, rfl, hpath, hquery, hwritten⟩ := exists_written_of_readPath h
    have hrooted : IsRooted path := isRooted_of_written (by rw [hwritten, hcs]; rfl)
    refine ⟨.origin hpath hrooted hquery, ?_⟩
    rw [hwritten]
    exact Nat.le_trans (List.takeWhile_prefix _).length_le hlong
  next hempty _ _ =>
    obtain ⟨hform, hlength⟩ := form_of_readFull hempty h
    exact ⟨hform, Nat.le_trans hlength hlong⟩

/-! ### Reading what is written -/

theorem parse?_of_long {text : String} (h : maxLength < text.toList.length) :
    parse? text = none :=
  if_pos h

/-- A rooted path with a query is a target of its own, unless it is too long. -/
theorem parse?_written {path : String} {query : Option String} (hpath : IsPath path)
    (hrooted : IsRooted path) (hquery : ∀ q ∈ query, IsQuery q)
    (hlength : (written path query).toList.length ≤ maxLength) :
    parse? (written path query) = some ⟨none, "", path, query⟩ := by
  have hread : readPath none "" (written path query).toList = some ⟨none, "", path, query⟩ :=
    readPath_written hpath hquery
  unfold parse?
  dsimp only
  rw [if_neg (Nat.not_lt.2 hlength)]
  obtain ⟨rest, hcs⟩ := List.head?_eq_some_iff.1 (hrooted.written query)
  simp only [hcs] at hread ⊢
  exact hread

/-- The target that is read of a rooted path with a query is written as it was. -/
theorem text_of_isRooted {path : String} (hrooted : IsRooted path) (query : Option String) :
    Uri.text ⟨none, "", path, query⟩ = written path query := by
  have hpath : Uri.path ⟨none, "", path, query⟩ = path := if_pos hrooted.ne_empty
  unfold text
  rw [hpath]
  cases query <;> simp [written, String.append_assoc]

/-- A query is no target by itself. -/
theorem parse?_written_nil (q : String) : parse? (written "" (some q)) = none := by
  unfold parse?
  dsimp only
  rw [toList_written_some]
  split_ifs
  · rfl
  · rfl

end Uri

end Gatehouse
