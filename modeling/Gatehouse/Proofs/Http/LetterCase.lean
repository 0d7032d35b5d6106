import Gatehouse.Http.HeaderFilter
import Gatehouse.Http.Inbound
import Gatehouse.Http.Request
import Gatehouse.Proofs.Text.Cutting

/-!
# Names in any letter case

A client may write the names of fields in any letter case, both in the fields themselves and in a
`Connection` field that nominates some of them. Case makes no difference: a request has under a name
the values that were sent under it in any letter case, and a name is nominated just if it is listed
in any letter case.

## Main definitions

* `Headers.nominates` : whether a name is listed by a `Connection` field.
* `sentValues` : the values that a client sends under a name.

## Main results

* `HeaderName.parse?_eq_some_iff` : the texts that a name is read from.
* `Headers.mem_nominated_iff` : which names are nominated.
* `SentRequest.values_of_accept` : the fields of a request that is handled.
* `SentRequest.version_ne_of_asks` : over HTTP/2, nobody asks for WebSocket.
-/

namespace Gatehouse

/-! ### Reading names -/

namespace HeaderName

theorem isTokenChar_of_isLetter {c : Char} (h : c.isUpper = true ∨ c.isLower = true) :
    isTokenChar c = true := by
  have hletter : c.isAlphanum = true := Bool.or_eq_true_iff.2 (.inl (Bool.or_eq_true_iff.2 h))
  rw [isTokenChar, hletter, Bool.true_or]

theorem isTokenChar_toLower (c : Char) : isTokenChar c.toLower = isTokenChar c := by
  by_cases hupper : c.isUpper = true
  · rw [isTokenChar_of_isLetter (.inl hupper),
      isTokenChar_of_isLetter (.inr (Text.isLower_toLower_of_isUpper hupper))]
  · rw [Text.toLower_of_not_isUpper hupper]

theorem isToken_toLower (cs : List Char) : isToken (Text.toLower cs) = isToken cs := by
  have hall : (Text.toLower cs).all isTokenChar = cs.all isTokenChar := by
    rw [Text.toLower, List.all_map]
    exact congrArg (List.all cs) (funext isTokenChar_toLower)
  have hempty : (Text.toLower cs != []) = (cs != []) := by cases cs <;> rfl
  rw [isToken, hall, hempty, isToken]

/-- A name is read from the texts that are equal to it up to letter case. -/
theorem parse?_eq_some_iff {cs : List Char} {name : String}
    (hname : parse? name.toList = some name) :
    parse? cs = some name ↔ Text.eqIgnoreCase cs name.toList = true := by
  obtain ⟨hvalid, hlower⟩ := Option.ite_none_right_eq_some.1 hname
  have hlower : Text.toLower name.toList = name.toList := by
    rw [← String.toList_ofList (l := Text.toLower name.toList), Option.some.inj hlower]
  rw [Text.eqIgnoreCase, beq_iff_eq, hlower]
  constructor
  · intro h
    obtain ⟨-, h⟩ := Option.ite_none_right_eq_some.1 h
    rw [← Option.some.inj h, String.toList_ofList]
  · intro h
    have htoken : isToken cs = isToken name.toList := by rw [← isToken_toLower, h]
    have hlength : cs.length = name.toList.length := by rw [← h, Text.toLower, List.length_map]
    rw [parse?, htoken, hlength, if_pos hvalid, h, String.ofList_toList]

end HeaderName

/-! ### Nominating names -/

/-- Whether a name is listed by a `Connection` field: it is one of the items of a value that is
plain text, in whatever letter case. -/
def Headers.nominates (h : Headers) (name : String) : Bool :=
  ((h.values "connection").filterMap HeaderValue.text?).any fun text =>
    (HeaderValue.listItems text).any fun item => Text.eqIgnoreCase item name.toList

theorem Headers.mem_nominated_iff {h : Headers} {name : String}
    (hname : HeaderName.parse? name.toList = some name) :
    name ∈ h.nominated ↔ h.nominates name = true := by
  simp only [nominated, nominates, List.mem_flatMap, List.mem_filterMap, List.any_eq_true,
    HeaderName.parse?_eq_some_iff hname]

/-! ### Reading fields -/

/-- A value without the blanks at its ends. -/
def HeaderValue.trimmed (value : Bytes) : Bytes :=
  ((value.dropWhile isBlankByte).reverse.dropWhile isBlankByte).reverse

/-- The values of the fields that are written with a name, in any letter case. -/
def sentValues (fields : List (String × Bytes)) (name : String) : List Bytes :=
  (fields.filter fun f => Text.eqIgnoreCase f.1.toList name.toList).map fun f =>
    HeaderValue.trimmed f.2

theorem eq_of_readSentField {field : String × Bytes} {f : Header}
    (h : readSentField field = .ok f) :
    HeaderName.parse? field.1.toList = some f.name ∧ f.value = HeaderValue.trimmed field.2 := by
  unfold readSentField at h
  dsimp only at h
  split at h
  next => cases h
  next name hname =>
    split at h
    next =>
      cases h
      exact ⟨hname, rfl⟩
    next => cases h

/-- Fields that are read have the values that are written with a name in any letter case. -/
theorem values_of_mapM_readSentField {fields : List (String × Bytes)} {read : List Header}
    (h : fields.mapM readSentField = .ok read) {name : String}
    (hname : HeaderName.parse? name.toList = some name) :
    Headers.values ⟨read⟩ name = sentValues fields name := by
  induction fields generalizing read with
  | nil =>
    cases h
    rfl
  | cons field fields ih =>
    rw [List.mapM_cons] at h
    cases hfield : readSentField field with
    | error e =>
      rw [hfield] at h
      cases h
    | ok f =>
      cases hfields : fields.mapM readSentField with
      | error e =>
        rw [hfield, hfields] at h
        cases h
      | ok rest =>
        rw [hfield, hfields] at h
        cases h
        obtain ⟨hread, hvalue⟩ := eq_of_readSentField hfield
        have hsame : (f.name == name) = Text.eqIgnoreCase field.1.toList name.toList := by
          rw [Bool.eq_iff_iff, beq_iff_eq, ← HeaderName.parse?_eq_some_iff hname, hread,
            Option.some.injEq]
        have hrest := ih hfields
        unfold Headers.values sentValues at hrest ⊢
        rw [List.filter_cons, List.filter_cons, hsame]
        split
        · rw [List.map_cons, List.map_cons, hrest, hvalue]
        · exact hrest

/-- Values that are sent one after the other are read one after the other. -/
theorem Headers.values_fields_append (xs ys : List Header) (name : String) :
    Headers.values ⟨xs ++ ys⟩ name = Headers.values ⟨xs⟩ name ++ Headers.values ⟨ys⟩ name := by
  rw [values, List.filter_append, List.map_append]
  rfl

/-! ### Framing -/

namespace BodyFraming

/-- Framing keeps a field, unless it tells the length of the body. -/
theorem values_kept_of_add {version : HttpVersion} {s s' : BodyFraming} {f : Header}
    (h : s.add version f = .ok s') {name : String} (hname : name ≠ "content-length") :
    Headers.values ⟨s'.kept.reverse⟩ name =
      Headers.values ⟨s.kept.reverse⟩ name ++ Headers.values ⟨[f]⟩ name := by
  have hcases : s'.kept = f :: s.kept ∨ s'.kept = s.kept ∧ f.name = "content-length" := by
    unfold BodyFraming.add at h
    grind
  rcases hcases with hkept | ⟨hkept, hlength⟩
  · rw [hkept, List.reverse_cons, Headers.values_fields_append]
  · have hnone : Headers.values ⟨[f]⟩ name = [] := by
      simp [Headers.values, hlength, Ne.symm hname]
    rw [hkept, hnone, List.append_nil]

theorem values_kept_of_foldlM {version : HttpVersion} {s s' : BodyFraming} {fields : List Header}
    (h : fields.foldlM (BodyFraming.add version) s = .ok s') {name : String}
    (hname : name ≠ "content-length") :
    Headers.values ⟨s'.kept.reverse⟩ name =
      Headers.values ⟨s.kept.reverse⟩ name ++ Headers.values ⟨fields⟩ name := by
  induction fields generalizing s with
  | nil =>
    cases h
    exact (List.append_nil _).symm
  | cons f fields ih =>
    rw [List.foldlM_cons] at h
    cases hadd : s.add version f with
    | error e =>
      rw [hadd] at h
      cases h
    | ok next =>
      rw [hadd] at h
      rw [ih h, values_kept_of_add hadd hname, List.append_assoc, ← Headers.values_fields_append]
      rfl

/-- All fields are kept, apart from those that tell the length of the body. -/
theorem values_kept_of_ofFields {version : HttpVersion} {s : BodyFraming} {fields : List Header}
    (h : ofFields version fields = .ok s) {name : String} (hname : name ≠ "content-length") :
    Headers.values ⟨s.kept.reverse⟩ name = Headers.values ⟨fields⟩ name := by
  unfold ofFields at h
  cases hfold : fields.foldlM (BodyFraming.add version) ⟨[], none, none⟩ with
  | error e =>
    rw [hfold] at h
    cases h
  | ok framing =>
    rw [hfold] at h
    obtain rfl : framing = s := by
      simp only [bind, Except.bind] at h
      split at h
      next => cases h
      next => exact Except.ok.inj h
    exact values_kept_of_foldlM hfold hname

end BodyFraming

/-! ### Requests -/

namespace SentRequest

variable {s : SentRequest} {r : Request}

/-- The fields that frame the content are the only ones that a client need not write. -/
theorem sentValues_framingFields {name : String}
    (hname : HeaderName.parse? name.toList = some name) (hlength : name ≠ "content-length")
    (hcoding : name ≠ "transfer-encoding") : sentValues s.framingFields name = [] := by
  have hother : ∀ field ∈ s.framingFields,
      Text.eqIgnoreCase field.1.toList name.toList ≠ true := by
    intro field hfield hsame
    have hread := (HeaderName.parse?_eq_some_iff hname).2 hsame
    unfold framingFields at hfield
    split at hfield
    next => cases hfield
    next =>
      have hown : HeaderName.parse? "Content-Length".toList = some "content-length" := by decide
      rw [List.mem_singleton.1 hfield, hown] at hread
      exact hlength (Option.some.inj hread).symm
    next =>
      have hown : HeaderName.parse? "Transfer-Encoding".toList = some "transfer-encoding" := by
        decide
      rw [List.mem_singleton.1 hfield, hown] at hread
      exact hcoding (Option.some.inj hread).symm
  rw [sentValues, List.filter_eq_nil_iff.2 hother, List.map_nil]

theorem values_of_acceptStreamed (h : s.acceptStreamed = .ok r) {name : String}
    (hname : HeaderName.parse? name.toList = some name) (hlength : name ≠ "content-length")
    (hcoding : name ≠ "transfer-encoding") :
    r.headers.values name = sentValues s.fields name := by
  unfold acceptStreamed at h
  simp only [bind, Except.bind, pure, Except.pure] at h
  split at h
  next => cases h
  next =>
    split at h
    next => cases h
    next fields hfields =>
      split at h
      next => cases h
      next =>
        split at h
        next => cases h
        next =>
          split at h
          next => cases h
          next framing hframing =>
            cases h
            rw [BodyFraming.values_kept_of_ofFields hframing hlength,
              values_of_mapM_readSentField hfields hname, sentValues, List.filter_append,
              List.map_append]
            exact (congrArg _ (sentValues_framingFields hname hlength hcoding)).trans
              (List.append_nil _)

theorem values_upgrade_withoutConnectionFields (h : Headers) :
    (withoutConnectionFields h).values "upgrade" = [] := by
  unfold withoutConnectionFields
  dsimp only
  generalize hfirst : connectionFields.foldl Headers.remove h = first
  have hnone : first.values "upgrade" = [] := by
    rw [← hfirst, Headers.values_foldl_remove, if_pos (by decide)]
  -- what is removed after that cannot bring a value back
  generalize hsecond : (if (first.first? "te").any (· != Bytes.ofText "trailers") then
    first.remove "te" else first) = second
  have hnone : second.values "upgrade" = [] := by
    rw [← hsecond]
    split
    · rw [Headers.values_remove, hnone, ite_self]
    · exact hnone
  split
  · rw [Headers.values_remove, hnone, ite_self]
  · rw [Headers.values_foldl_remove, Headers.values_remove, hnone, ite_self, ite_self]

theorem values_upgrade_of_acceptMultiplexed (h : s.acceptMultiplexed = .ok r) :
    r.headers.values "upgrade" = [] := by
  unfold acceptMultiplexed at h
  simp only [bind, Except.bind, pure, Except.pure] at h
  split at h
  next => cases h
  next =>
    split at h
    next => cases h
    next =>
      split at h
      next => cases h
      next =>
        split at h
        next =>
          cases h
          exact values_upgrade_withoutConnectionFields _
        next =>
          cases h
          dsimp only
          split
          next =>
            rw [Headers.values_append, values_upgrade_withoutConnectionFields]
            rfl
          next => exact values_upgrade_withoutConnectionFields _

/-- Over HTTP/2, nobody asks for WebSocket. -/
theorem version_ne_of_asks (h : s.accept = .ok r)
    (hasks : asksForWebSocket r.method r.headers = true) : s.version ≠ .v2 := by
  intro hversion
  rw [accept, if_pos hversion] at h
  rw [asksForWebSocket, values_upgrade_of_acceptMultiplexed h] at hasks
  simp at hasks

/-- A request that asks for WebSocket has under a name the values that were sent under it in any
letter case, in order, unless the name frames the body. -/
theorem values_of_accept (h : s.accept = .ok r)
    (hasks : asksForWebSocket r.method r.headers = true) {name : String}
    (hname : HeaderName.parse? name.toList = some name) (hlength : name ≠ "content-length")
    (hcoding : name ≠ "transfer-encoding") :
    r.headers.values name = sentValues s.fields name := by
  have hversion := version_ne_of_asks h hasks
  rw [accept, if_neg hversion] at h
  exact values_of_acceptStreamed h hname hlength hcoding

end SentRequest

end Gatehouse
