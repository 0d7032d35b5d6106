import Gatehouse.Proofs.Text.Cutting
import Gatehouse.Url.Parser

/-!
# The characters in the parts of a URL

The parts of a URL are encoded when it is read. What is encoded for a part contains none of the
characters that this part encodes. So the path of a URL that has an authority or a rooted path
consists of slashes and of characters that no path encodes, and it is rooted unless it is empty; the
query consists of characters that no query encodes.

## Main definitions

* `Percent.IsKept`: the percent sign and the hexadecimal digits are not encoded.
* `Percent.IsEncoded`: no character of a text is to be encoded.
* `Url.IsHierarchical`: a URL with an authority or a rooted path.

## Main results

* `Percent.isEncoded_encode`: what is encoded contains nothing that is to be encoded.
* `Path.isEncoded_of_place`: nor do the segments of a path.
* `Url.hasEncodedParts_of_parse`: nor do the path and the query of a URL that has been read.
-/

namespace Gatehouse

/-! ### Encoded texts -/

namespace Percent

/-- The characters that encoded bytes are written with are not encoded themselves. -/
structure IsKept (inSet : Char → Bool) : Prop where
  percent : inSet '%' = false
  digit : ∀ d < 16, inSet (Numeral.hexUpper d) = false

theorem isKept_inPath : IsKept inPath := ⟨by decide, by decide⟩

theorem isKept_inQuery : IsKept inQuery := ⟨by decide, by decide⟩

theorem isKept_inSpecialQuery : IsKept inSpecialQuery := ⟨by decide, by decide⟩

/-- No character of a text is to be encoded. -/
def IsEncoded (inSet : Char → Bool) (cs : List Char) : Prop := ∀ c ∈ cs, inSet c = false

theorem isEncoded_nil (inSet : Char → Bool) : IsEncoded inSet [] := nofun

variable {inSet : Char → Bool}

theorem IsKept.hexUpper (h : IsKept inSet) (n : Nat) : inSet (Numeral.hexUpper n) = false := by
  have hmod : Numeral.hexUpper n = Numeral.hexUpper (n % 16) := by
    rw [Numeral.hexUpper, Numeral.hexUpper, Nat.mod_mod]
  rw [hmod]
  exact h.digit _ (Nat.mod_lt n (by decide))

/-- What is encoded consists of characters of the text, percent signs and hexadecimal digits. -/
theorem mem_encode {cs : List Char} {c : Char} (hc : c ∈ encode inSet cs) :
    (c ∈ cs ∧ inSet c = false) ∨ c = '%' ∨ ∃ n, c = Numeral.hexUpper n := by
  obtain ⟨d, hd, hc⟩ := List.mem_flatMap.1 hc
  unfold encodeChar at hc
  split_ifs at hc with hset
  · obtain ⟨b, -, hc⟩ := List.mem_flatMap.1 hc
    simp only [encodeByte, List.mem_cons, List.not_mem_nil, or_false] at hc
    rcases hc with rfl | rfl | rfl
    · exact .inr (.inl rfl)
    · exact .inr (.inr ⟨_, rfl⟩)
    · exact .inr (.inr ⟨_, rfl⟩)
  · rw [List.mem_singleton.1 hc]
    exact .inl ⟨hd, Bool.not_eq_true _ ▸ hset⟩

/-- What is encoded contains nothing that is to be encoded. -/
theorem isEncoded_encode (h : IsKept inSet) (cs : List Char) :
    IsEncoded inSet (encode inSet cs) := by
  intro c hc
  rcases mem_encode hc with ⟨-, hc⟩ | rfl | ⟨n, rfl⟩
  · exact hc
  · exact h.percent
  · exact h.hexUpper n

/-- A character that encoded bytes are not written with is in what is encoded only if it is in the
text. -/
theorem mem_of_mem_encode {cs : List Char} {c : Char} (h : IsKept (· == c))
    (hc : c ∈ encode inSet cs) : c ∈ cs := by
  rcases mem_encode hc with ⟨hmem, -⟩ | rfl | ⟨n, rfl⟩
  · exact hmem
  · exact absurd h.percent (by decide)
  · simpa using h.hexUpper n

/-- What is encoded starts with the first character or with a percent sign. -/
theorem head?_encode_cons (inSet : Char → Bool) (c : Char) (cs : List Char) :
    (encode inSet (c :: cs)).head? = some c ∨ (encode inSet (c :: cs)).head? = some '%' := by
  unfold encode
  rw [List.flatMap_cons, encodeChar]
  split
  next =>
    unfold Utf8.encodeChar
    dsimp only
    split_ifs <;> exact .inr rfl
  next => exact .inl rfl

end Percent

/-! ### Paths -/

namespace Path

open Percent (IsEncoded inPath)

/-- A drive letter gets a colon, which no path encodes. -/
theorem isEncoded_withColon {segment : List Char} (h : IsEncoded inPath segment) :
    IsEncoded inPath (withColon segment) := by
  unfold withColon
  split
  next c =>
    split_ifs
    · intro d hd
      rcases List.mem_cons.1 hd with rfl | hd
      · exact h _ (.head _)
      · rw [List.mem_singleton.1 hd]
        decide
    · exact h
  next => exact h

/-- Segments that are placed on a path are empty, or segments of the text that are not single dots
and, on the path of a file, may get a colon. -/
theorem forall_mem_place {p : List Char → Prop} {file : Bool} {done segments : List (List Char)}
    (hnil : p []) (hcolon : file = true → ∀ segment, p segment → p (withColon segment))
    (hdone : ∀ segment ∈ done, p segment)
    (hsegments : ∀ segment ∈ segments, isSingleDot segment = false → p segment) :
    ∀ segment ∈ place file done segments, p segment := by
  induction segments generalizing done with
  | nil => simpa [place] using hdone
  | cons segment rest ih =>
    obtain ⟨hsegment, hrest⟩ := List.forall_mem_cons.1 hsegments
    have hshorter : ∀ segment ∈ shorten file done, p segment := by
      unfold shorten
      split
      next => exact nofun
      next =>
        split_ifs
        · exact hdone
        · exact nofun
      next => exact (List.forall_mem_cons.1 hdone).2
    rw [place]
    dsimp only
    split_ifs with hdouble hlast hsingle hlast hfirst
    · exact ih (List.forall_mem_cons.2 ⟨hnil, hshorter⟩) hrest
    · exact ih hshorter hrest
    · exact ih (List.forall_mem_cons.2 ⟨hnil, hdone⟩) hrest
    · exact ih hdone hrest
    all_goals
      have hplaced := hsegment (Bool.not_eq_true _ ▸ hsingle)
    · have hfile := (Bool.and_eq_true_iff.1 hfirst).1
      exact ih (List.forall_mem_cons.2 ⟨hcolon hfile _ hplaced, hdone⟩) hrest
    · exact ih (List.forall_mem_cons.2 ⟨hplaced, hdone⟩) hrest

theorem isEncoded_of_place {file : Bool} {segments : List (List Char)}
    (hsegments : ∀ segment ∈ segments, IsEncoded inPath segment) :
    ∀ segment ∈ place file [] segments, IsEncoded inPath segment :=
  forall_mem_place (Percent.isEncoded_nil inPath) (fun _ _ => isEncoded_withColon)
    (List.forall_mem_nil _) fun segment hsegment _ => hsegments segment hsegment

theorem isEncoded_joinWith {segments : List (List Char)}
    (h : ∀ segment ∈ segments, IsEncoded inPath segment) :
    IsEncoded inPath (Text.joinWith ['/'] segments) := by
  intro c hc
  rcases Text.mem_joinWith hc with hsep | ⟨segment, hsegment, hc⟩
  · rw [List.mem_singleton.1 hsep]
    decide
  · exact h segment hsegment c hc

theorem isEncoded_map_encode (segments : List (List Char)) :
    ∀ segment ∈ segments.map (Percent.encode inPath), IsEncoded inPath segment := by
  intro segment hsegment
  obtain ⟨cs, -, rfl⟩ := List.mem_map.1 hsegment
  exact Percent.isEncoded_encode Percent.isKept_inPath cs

/-- A path without dot segments is one of characters that it does not encode. -/
theorem isEncoded_normalize (backslash : Bool) (cs : List Char) :
    IsEncoded inPath (normalize backslash cs) :=
  List.forall_mem_cons.2 ⟨by decide,
    isEncoded_joinWith (isEncoded_of_place (isEncoded_map_encode _))⟩

theorem isEncoded_normalizeFile (cs : List Char) : IsEncoded inPath (normalizeFile cs) := by
  refine List.forall_mem_cons.2 ⟨by decide, fun c hc => ?_⟩
  exact isEncoded_joinWith (isEncoded_of_place (isEncoded_map_encode _)) c
    ((List.dropWhile_sublist _).subset hc)

end Path

/-! ### Whole URLs -/

namespace Url

open Percent (IsEncoded inPath inQuery inSpecialQuery)

/-- A URL whose path, if it has one, is a sequence of segments: it has an authority or a rooted
path. -/
def IsHierarchical (u : Url) : Prop := u.authority.isSome = true ∨ u.path.toList.head? = some '/'

/-- The path is encoded and rooted unless it is empty, and the query is encoded. -/
structure HasEncodedParts (u : Url) : Prop where
  path : IsEncoded inPath u.path.toList
  rooted : u.path = "" ∨ u.path.toList.head? = some '/'
  query : ∀ q ∈ u.query, IsEncoded inQuery q.toList

/-- What a special query encodes is more than what any query encodes. -/
theorem isEncoded_inQuery {special : Bool} (cs : List Char) :
    IsEncoded inQuery (Percent.encode (if special then inSpecialQuery else inQuery) cs) := by
  cases special with
  | false => exact Percent.isEncoded_encode Percent.isKept_inQuery cs
  | true =>
    intro c hc
    have hencoded := Percent.isEncoded_encode Percent.isKept_inSpecialQuery cs c hc
    exact (Bool.or_eq_false_iff.1 hencoded).1

theorem isEncoded_readTail {special : Bool} {tail : List Char} {q : String}
    (hq : q ∈ (readTail special tail).1) : IsEncoded inQuery q.toList := by
  unfold readTail at hq
  dsimp only at hq
  split at hq
  next rest =>
    split at hq
    all_goals
      cases hq
      rw [String.toList_ofList]
      exact isEncoded_inQuery _
  next => cases hq
  next => cases hq

variable {scheme : String} {special : Bool} {authority : Option Authority} {path tail : List Char}

theorem hasEncodedParts_assemble (hpath : IsEncoded inPath path)
    (hrooted : path = [] ∨ path.head? = some '/') :
    (assemble scheme special authority path tail).HasEncodedParts where
  path := by simpa [assemble] using hpath
  rooted := by simpa [assemble] using hrooted
  query _ hq := isEncoded_readTail hq

theorem hasEncodedParts_normalize (backslash : Bool) (cs : List Char) :
    (assemble scheme special authority (Path.normalize backslash cs) tail).HasEncodedParts :=
  hasEncodedParts_assemble (Path.isEncoded_normalize backslash cs) (.inr rfl)

theorem hasEncodedParts_normalizeFile (cs : List Char) :
    (assemble scheme special authority (Path.normalizeFile cs) tail).HasEncodedParts :=
  hasEncodedParts_assemble (Path.isEncoded_normalizeFile cs) (.inr rfl)

theorem hasEncodedParts_generalPath (cs : List Char) :
    (assemble scheme special authority (generalPath cs) tail).HasEncodedParts := by
  unfold generalPath
  split
  next => exact hasEncodedParts_assemble (Percent.isEncoded_nil _) (.inl rfl)
  next => exact hasEncodedParts_normalize _ _
  next => exact hasEncodedParts_normalize _ _

end Url

/-- A mapped result that is there comes from one that is. -/
theorem exists_of_map_eq_ok {ε α β : Type} {f : α → β} {x : Except ε α} {b : β}
    (h : x.map f = .ok b) : ∃ a, x = .ok a ∧ f a = b := by
  cases x with
  | error e => cases h
  | ok a => exact ⟨a, rfl, Except.ok.inj h⟩

namespace Url

variable {u : Url}

theorem hasEncodedParts_of_parseSpecial {scheme : String} {cs : List Char}
    (h : parseSpecial scheme cs = .ok u) : u.HasEncodedParts := by
  obtain ⟨⟨authority, rest⟩, -, rfl⟩ := exists_of_map_eq_ok h
  exact hasEncodedParts_normalize _ _

/-- The URL of a file has a host that has been read, or none, and a path of its own kind. -/
theorem exists_of_parseFile {cs : List Char} (h : parseFile cs = .ok u) :
    ∃ host path tail,
      u = assemble "file" true (some (fileAuthority host)) (Path.normalizeFile path) tail ∧
        ∀ x ∈ host, ∃ text, Host.parseSpecial text = .ok x := by
  unfold parseFile at h
  dsimp only at h
  split at h
  next =>
    split at h
    next =>
      split at h
      next => exact ⟨none, _, _, (Except.ok.inj h).symm, nofun⟩
      next =>
        split at h
        next => exact ⟨none, _, _, (Except.ok.inj h).symm, nofun⟩
        next =>
          obtain ⟨host, hread, hu⟩ := exists_of_map_eq_ok h
          refine ⟨_, _, _, hu.symm, fun x hx => ?_⟩
          obtain rfl : host = x := Option.some.inj (Option.ite_none_left_eq_some.1 hx).2
          exact ⟨_, hread⟩
    next => exact ⟨none, _, _, (Except.ok.inj h).symm, nofun⟩
  next => exact ⟨none, _, _, (Except.ok.inj h).symm, nofun⟩

theorem hasEncodedParts_of_parseFile {cs : List Char} (h : parseFile cs = .ok u) :
    u.HasEncodedParts := by
  obtain ⟨host, path, tail, rfl, -⟩ := exists_of_parseFile h
  exact hasEncodedParts_normalizeFile path

/-- A path that is no sequence of segments is not rooted, as the text behind the scheme is not. -/
theorem not_isRooted_encode {cs : List Char} (hcs : cs.head? ≠ some '/') :
    (Percent.encode Percent.inControls (cutPath cs).1).head? ≠ some '/' := by
  unfold cutPath
  cases cs with
  | nil => exact nofun
  | cons c rest =>
    dsimp only
    rw [List.takeWhile_cons]
    split
    next =>
      rcases Percent.head?_encode_cons Percent.inControls c
        (rest.takeWhile fun c => c != '?' && c != '#') with hhead | hhead
      · exact hhead ▸ hcs
      · rw [hhead]
        decide
    next => exact nofun

/-- A general scheme may have a path that is no sequence of segments, but not one that is rooted or
stands behind an authority. -/
theorem hasEncodedParts_of_parseGeneral {scheme : String} {cs : List Char}
    (h : parseGeneral scheme cs = .ok u) (hu : u.IsHierarchical) : u.HasEncodedParts := by
  unfold parseGeneral at h
  split at h
  next rest =>
    obtain ⟨⟨authority, rest⟩, -, rfl⟩ := exists_of_map_eq_ok h
    exact hasEncodedParts_generalPath _
  next =>
    cases h
    exact hasEncodedParts_normalize _ _
  next hdouble hsingle =>
    cases h
    rcases hu with hauthority | hrooted
    · cases hauthority
    · have hhead := String.toList_ofList ▸ hrooted
      refine absurd hhead (not_isRooted_encode fun hcs => ?_)
      obtain ⟨rest, rfl⟩ := List.head?_eq_some_iff.1 hcs
      exact hsingle rest rfl

/-- The path and the query of a URL that has been read are encoded. -/
theorem hasEncodedParts_of_parse {s : String} (h : parse s = .ok u) (hu : u.IsHierarchical) :
    u.HasEncodedParts := by
  unfold parse at h
  split at h
  next => cases h
  next =>
    split at h
    next => exact hasEncodedParts_of_parseSpecial h
    next => exact hasEncodedParts_of_parseFile h
    next => exact hasEncodedParts_of_parseGeneral h hu

end Url

end Gatehouse
