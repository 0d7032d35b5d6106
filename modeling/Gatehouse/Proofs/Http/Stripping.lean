import Gatehouse.Http.HeaderFilter
import Gatehouse.Proofs.Text.Cutting

/-!
# Stripping and copying

A filter passes the fields of a message in two ways: it copies those that it allows, or it strips
the message of those that it denies and of those that the `Connection` fields nominate. Stripping is
copying without the nominated fields. The nominations are those of the message before anything is
removed, also where they name `Connection` itself; the values of what is left stay as they are.

## Main definitions

* `HeaderValue.Lists` : a token that is listed by a value.
* `Headers.IsNominated` : a name that a `Connection` field nominates.
* `Headers.IsLower` : fields with names in lower case.

## Main results

* `Headers.isNominated_iff` : the nominated names are those that are removed.
* `HeaderFilter.strip_eq_filter`, `HeaderFilter.values_strip` : what stripping leaves.
* `HeaderFilter.strip_strip` : nothing is left that would be stripped.
* `HeaderFilter.stripped_fields` : stripping, copying, and what they leave of each name.
-/

namespace Gatehouse

/-! ### Listed tokens -/

theorem HeaderName.not_isBlank_of_mem {token : List Char} (h : isToken token = true) {c : Char}
    (hc : c ∈ token) : HeaderValue.isBlank c = false := by
  have hchar : isTokenChar c = true := List.all_eq_true.1 (Bool.and_eq_true_iff.1 h).2 c hc
  refine Bool.eq_false_iff.2 fun hblank => ?_
  rcases Bool.or_eq_true_iff.1 hblank with heq | heq
  · exact absurd (beq_iff_eq.1 heq ▸ hchar) (by decide)
  · exact absurd (beq_iff_eq.1 heq ▸ hchar) (by decide)

/-- A text lists a token: apart from blanks around it, it is what stands between two commas, or
between a comma and an end of the text. -/
def HeaderValue.Lists (text token : List Char) : Prop :=
  HeaderName.isToken token = true ∧ ∃ items left right, Text.IsCut ',' text items ∧
    left ++ token ++ right ∈ items ∧ (∀ c ∈ left, isBlank c = true) ∧
    ∀ c ∈ right, isBlank c = true

theorem HeaderValue.lists_iff {text token : List Char} :
    Lists text token ↔ HeaderName.isToken token = true ∧ token ∈ listItems text := by
  refine and_congr_right fun htoken => ?_
  have hblanks : ∀ c ∈ token, isBlank c = false := fun _ => HeaderName.not_isBlank_of_mem htoken
  simp only [listItems, List.mem_map, Text.trim_eq_iff hblanks, Text.isCut_iff]
  constructor
  · rintro ⟨items, left, right, rfl, hmem, hleft, hright⟩
    exact ⟨_, hmem, left, right, rfl, hleft, hright⟩
  · rintro ⟨item, hmem, left, right, rfl, hleft, hright⟩
    exact ⟨_, left, right, rfl, hmem, hleft, hright⟩

theorem HeaderName.parse?_eq_some_iff_toLower {cs : List Char} {name : String} :
    parse? cs = some name ↔
      isToken cs = true ∧ cs.length ≤ maxLength ∧ Text.toLower cs = name.toList := by
  rw [parse?, Option.ite_none_right_eq_some, Bool.and_eq_true, decide_eq_true_eq, and_assoc,
    Option.some.injEq, ← String.toList_inj, String.toList_ofList]

namespace Headers

variable {h : Headers} {name : String}

/-- A name is nominated: a `Connection` field that is plain text lists it in some letter case. -/
def IsNominated (h : Headers) (name : String) : Prop :=
  ∃ value ∈ h.values "connection", ∃ text, HeaderValue.text? value = some text ∧
    ∃ token, HeaderValue.Lists text token ∧ token.length ≤ HeaderName.maxLength ∧
      Text.toLower token = name.toList

/-- The nominated names are those that are removed on behalf of the `Connection` fields. -/
theorem isNominated_iff : h.IsNominated name ↔ name ∈ h.nominated := by
  simp only [nominated, List.mem_flatMap, List.mem_filterMap,
    HeaderName.parse?_eq_some_iff_toLower]
  constructor
  · rintro ⟨value, hvalue, text, htext, token, hlists, hlength, hname⟩
    obtain ⟨htoken, hitem⟩ := HeaderValue.lists_iff.1 hlists
    exact ⟨text, ⟨value, hvalue, htext⟩, token, hitem, htoken, hlength, hname⟩
  · rintro ⟨text, ⟨value, hvalue, htext⟩, token, hitem, htoken, hlength, hname⟩
    exact ⟨value, hvalue, text, htext, token, HeaderValue.lists_iff.2 ⟨htoken, hitem⟩, hlength,
      hname⟩

instance (h : Headers) : DecidablePred h.IsNominated :=
  fun _ => decidable_of_iff _ isNominated_iff.symm

/-! ### Removing several names -/

theorem filter_filter (h : Headers) (accepted accepted' : String → Bool) :
    (h.filter accepted).filter accepted' =
      h.filter fun name => accepted' name && accepted name :=
  congrArg Headers.mk List.filter_filter

theorem filter_congr {accepted accepted' : String → Bool}
    (heq : ∀ f ∈ h.fields, accepted f.name = accepted' f.name) :
    h.filter accepted = h.filter accepted' :=
  congrArg Headers.mk (List.filter_congr heq)

theorem filter_eq_self {accepted : String → Bool}
    (hall : ∀ f ∈ h.fields, accepted f.name = true) : h.filter accepted = h :=
  congrArg Headers.mk (List.filter_eq_self.2 hall)

/-- To remove one name after the other is to filter once. -/
theorem foldl_remove_eq_filter (names : List String) (h : Headers) :
    names.foldl remove h = h.filter fun name => !names.contains name := by
  induction names generalizing h with
  | nil => exact (filter_eq_self fun _ _ => rfl).symm
  | cons first names ih =>
    rw [List.foldl_cons, ih, remove, filter_filter]
    refine filter_congr fun f _ => ?_
    rw [List.contains_cons, Bool.not_or, Bool.and_comm]
    rfl

/-- The names of the fields are in lower case. -/
def IsLower (h : Headers) : Prop :=
  ∀ f ∈ h.fields, Text.toLower f.name.toList = f.name.toList

instance : DecidablePred IsLower :=
  fun h => inferInstanceAs (Decidable (∀ f ∈ h.fields, Text.toLower f.name.toList = f.name.toList))

end Headers

namespace HeaderFilter

variable {f : HeaderFilter} {h : Headers} {name : String}

/-! ### What stripping leaves -/

/-- Stripping leaves the fields that are neither denied nor nominated. -/
theorem strip_eq_filter (f : HeaderFilter) (h : Headers) :
    f.strip h = h.filter fun name => !f.denied.contains name && !h.nominated.contains name := by
  rw [strip, Headers.foldl_remove_eq_filter, Headers.foldl_remove_eq_filter, Headers.filter_filter]

theorem mem_fields_strip {g : Header} :
    g ∈ (f.strip h).fields ↔ g ∈ h.fields ∧ g.name ∉ f.denied ∧ g.name ∉ h.nominated := by
  rw [strip_eq_filter]
  simp [Headers.filter]

theorem values_strip (f : HeaderFilter) (h : Headers) (name : String) :
    (f.strip h).values name =
      if name ∈ f.denied ∨ name ∈ h.nominated then [] else h.values name := by
  rw [strip_eq_filter, Headers.values_filter]
  by_cases hdenied : name ∈ f.denied <;> by_cases hnominated : name ∈ h.nominated <;>
    simp [hdenied, hnominated]

/-- A message that is stripped nominates nothing that it has not nominated before. -/
theorem nominated_of_nominated_strip (hname : name ∈ (f.strip h).nominated) :
    name ∈ h.nominated := by
  unfold Headers.nominated at hname
  rw [values_strip] at hname
  split at hname
  next => cases hname
  next => exact hname

/-- What is left of a message is left of it again. -/
theorem strip_strip (f : HeaderFilter) (h : Headers) : f.strip (f.strip h) = f.strip h := by
  rw [strip_eq_filter f (f.strip h)]
  refine Headers.filter_eq_self fun g hg => ?_
  obtain ⟨-, hdenied, hnominated⟩ := mem_fields_strip.1 hg
  have hagain : g.name ∉ (f.strip h).nominated := mt nominated_of_nominated_strip hnominated
  simp [hdenied, hagain]

/-! ### What copying leaves -/

theorem allows_iff :
    f.allows name = true ↔ ∀ d ∈ f.denied, Text.toLower d.toList ≠ Text.toLower name.toList := by
  simp [allows, Text.eqIgnoreCase]

/-- Letter case makes no difference to what is allowed. -/
theorem allows_congr {spelling : String}
    (hsame : Text.eqIgnoreCase spelling.toList name.toList = true) :
    f.allows spelling = f.allows name := by
  rw [Bool.eq_iff_iff, allows_iff, allows_iff, beq_iff_eq.1 hsame]

/-- Those names are allowed that are not denied in lower case. -/
theorem allows_iff_lower_notMem (hdenied : ∀ d ∈ f.denied, Text.toLower d.toList = d.toList) :
    f.allows name = true ↔ String.ofList (Text.toLower name.toList) ∉ f.denied := by
  rw [allows_iff]
  refine ⟨fun hother hmem => hother _ hmem ?_, fun hnotMem d hd heq => hnotMem ?_⟩
  · rw [hdenied _ hmem, String.toList_ofList]
  · rwa [← heq, hdenied d hd, String.ofList_toList]

/-- Of the names in lower case, those are allowed that are not denied. -/
theorem allows_iff_notMem (hdenied : ∀ d ∈ f.denied, Text.toLower d.toList = d.toList)
    (hname : Text.toLower name.toList = name.toList) :
    f.allows name = true ↔ name ∉ f.denied := by
  rw [allows_iff_lower_notMem hdenied, hname, String.ofList_toList]

/-- Stripping is copying without the nominated fields. -/
theorem strip_eq_filter_apply (hdenied : ∀ d ∈ f.denied, Text.toLower d.toList = d.toList)
    (hlower : h.IsLower) :
    f.strip h = (f.apply h).filter fun name => !decide (h.IsNominated name) := by
  rw [strip_eq_filter, apply, Headers.filter_filter]
  refine Headers.filter_congr fun g hg => ?_
  rw [Bool.eq_iff_iff, Bool.and_eq_true, Bool.and_eq_true, allows_iff_notMem hdenied (hlower g hg)]
  simp [Headers.isNominated_iff, and_comm]

/-- A filter of the router strips a message of what it does not allow to copy, and of all that the
`Connection` fields nominate. All other names keep all their values, in order, and nothing is left
for a second time. Copying keeps the names that the filter allows, in whatever case they are
written. -/
theorem stripped_fields (hf : f = hopByHop ∨ f = webSocket) (hlower : h.IsLower) :
    (f.strip h = (f.apply h).filter fun name => !decide (h.IsNominated name)) ∧
    (∀ name, (f.strip h).values name =
      if f.allows name ∧ ¬ h.IsNominated name then h.values name else []) ∧
    f.strip (f.strip h) = f.strip h ∧
    ∀ name spelling, Text.eqIgnoreCase spelling.toList name.toList = true →
      (f.apply h).values name = if f.allows spelling then h.values name else [] := by
  have hdenied : ∀ d ∈ f.denied, Text.toLower d.toList = d.toList := by
    rcases hf with rfl | rfl <;> decide
  refine ⟨strip_eq_filter_apply hdenied hlower, fun name => ?_, strip_strip f h,
    fun name spelling hsame => ?_⟩
  · rw [strip_eq_filter_apply hdenied hlower, apply, Headers.values_filter, Headers.values_filter]
    by_cases hnominated : h.IsNominated name <;> simp [hnominated]
  · rw [apply, Headers.values_filter, allows_congr hsame]

/-- The fields of a message whose `Connection` fields nominate two fields, `Connection` itself and
one that is denied anyway, beside what is no token; the value of the last of them is not plain
text. -/
def nominating : Headers :=
  ⟨[⟨"connection", Bytes.ofText "X-Private , CONNECTION,,te"⟩, ⟨"x-trace", Bytes.ofText "1"⟩,
    ⟨"x-private", Bytes.ofText "secret"⟩, ⟨"connection", Bytes.ofText "\tx-Token, x(trace"⟩,
    ⟨"x-trace", Bytes.ofText "2"⟩, ⟨"x-token", Bytes.ofText "t"⟩, ⟨"te", Bytes.ofText "gzip"⟩,
    ⟨"connection", Bytes.ofText "x-trace, é"⟩, ⟨"origin", Bytes.ofText "here"⟩]⟩

theorem stripped_fields_nominating :
    nominating.IsLower ∧
    hopByHop.strip nominating = ⟨[⟨"x-trace", Bytes.ofText "1"⟩, ⟨"x-trace", Bytes.ofText "2"⟩,
      ⟨"origin", Bytes.ofText "here"⟩]⟩ ∧
    hopByHop.strip nominating =
      (hopByHop.apply nominating).filter (fun name => !decide (nominating.IsNominated name)) ∧
    (hopByHop.apply nominating).values "x-trace" = [Bytes.ofText "1", Bytes.ofText "2"] := by
  have hlower : nominating.IsLower := by decide
  obtain ⟨hstrip, -, -, happly⟩ := stripped_fields (.inl rfl) hlower
  exact ⟨hlower, by decide +kernel, hstrip, happly "x-trace" "X-Trace" (by decide)⟩

end HeaderFilter

end Gatehouse
