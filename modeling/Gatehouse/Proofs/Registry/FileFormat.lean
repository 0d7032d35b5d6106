import Gatehouse.EndpointsFile
import Gatehouse.Proofs.Json.Format

/-!
# The format of the endpoints file

What the file names depends on the value that its text stands for alone, and of that only on the
members that the format knows, in whatever order they stand. Lists of endpoints and of proxies may
be missing. A host, a listen URL or a target URL may not, no known member may come up again, and the
URLs must be URLs.

## Main definitions

* `EndpointsFile.format`: the names that the format knows.
* `ProxyConfig.IsGivenBy`, `EndpointConfig.IsGivenBy`, `EndpointsFile.IsGivenBy`: a value gives a
  proxy, an endpoint, and the content of a file.
* `EndpointsFile.IsFaulty`: a known member is missing, repeated or no URL.

## Main results

* `EndpointsFile.parse_eq_ok_iff`: a text has the content that its value gives.
* `EndpointsFile.parse_of_alike`: the texts of values that are alike have the same content, or none.
-/

namespace Gatehouse

open Json

/-! ### Fields of values -/

namespace Json

/-- The values of a name in a record of fields with the given names. -/
def Value.field (names : List String) (name : String) (v : Value) : List Value :=
  ((v.members? names).map (valuesOf name)).getD []

/-- The elements of the arrays of a name. -/
def Value.listed (names : List String) (name : String) (v : Value) : List Value :=
  (v.field names name).flatMap fun
    | .array elements => elements
    | _ => []

/-- The URL that a value gives. -/
def Value.url? (v : Value) : Option Url := v.string?.bind fun text => (Url.parse text).toOption

/-- Values give a list: an array gives what its elements give, and no value gives no elements. -/
def AreGivenBy {α : Type} (given : α → Value → Prop) (xs : List α) (values : List Value) : Prop :=
  values = [] ∧ xs = [] ∨ ∃ elements, values = [.array elements] ∧ List.Forall₂ given xs elements

theorem means_readUrl : Means readUrl Value.url? := by
  intro v cs hv gap rest hgap hrest mark
  have hstring := means_wantedString "a string representing an URL" v cs hv gap rest hgap hrest mark
  rw [readUrl, Value.url?]
  obtain ⟨htext, e, hstring⟩ | ⟨text, mark', htext, hstring⟩ := hstring.cases
  · rw [htext, hstring]
    exact ⟨e, rfl⟩
  · rw [htext, hstring, Option.bind_some]
    dsimp only
    cases Url.parse text with
    | error e => exact ⟨_, rfl⟩
    | ok url => exact ⟨mark', rfl⟩

theorem respectedBy_url? (format : Format) : format.RespectedBy Value.url? := fun v w h => by
  rw [Value.url?, Value.url?, respectedBy_string? format v w h]

theorem string?_eq_some_iff {v : Value} {text : String} :
    v.string? = some text ↔ v = .string (some text) := by
  cases v <;> simp [Value.string?]

theorem field_eq {names : List String} {v : Value} {ms : List (String × Value)}
    (h : v.members? names = some ms) (name : String) : v.field names name = valuesOf name ms := by
  rw [Value.field, h, Option.map_some, Option.getD_some]

theorem exists_members?_of_field {names : List String} {name : String} {u v : Value}
    {us : List Value} (h : v.field names name = u :: us) : ∃ ms, v.members? names = some ms := by
  rw [Value.field] at h
  cases hms : v.members? names with
  | none =>
    rw [hms] at h
    cases h
  | some ms => exact ⟨ms, rfl⟩

/-- Values that give a list are no more than one, and elements that give something have no fault. -/
theorem AreGivenBy.not_faulty {α : Type} {given : α → Value → Prop} {faulty : Value → Prop}
    (hfaulty : ∀ x v, given x v → ¬ faulty v) {names : List String} {name : String} {v : Value}
    {xs : List α} (h : AreGivenBy given xs (v.field names name)) :
    ¬ (1 < (v.field names name).length ∨ ∃ u ∈ v.listed names name, faulty u) := by
  obtain ⟨hnil, -⟩ | ⟨elements, hvalues, hgiven⟩ := h
  · simp [Value.listed, hnil]
  · rintro (hmany | ⟨u, hu, hfault⟩)
    · rw [hvalues] at hmany
      exact Nat.lt_irrefl 1 hmany
    · have hmem : u ∈ elements := by simpa [Value.listed, hvalues] using hu
      obtain ⟨i, hi, rfl⟩ := List.getElem_of_mem hmem
      have hi' : i < xs.length := hgiven.length_eq.symm ▸ hi
      exact hfaulty xs[i] elements[i] (hgiven.get hi' hi) hfault

section Lists

variable {α : Type} {meaning : Value → Option α} {given : α → Value → Prop}

theorem meaningsOf_eq_some_iff (h : ∀ v x, meaning v = some x ↔ given x v) {vs : List Value}
    {xs : List α} : meaningsOf meaning vs = some xs ↔ List.Forall₂ given xs vs := by
  induction vs generalizing xs with
  | nil => cases xs <;> simp [meaningsOf]
  | cons v vs ih =>
    simp only [meaningsOf, Option.bind_eq_some_iff, Option.map_eq_some_iff, h, ih]
    cases xs with
    | nil => simp
    | cons x xs => simp

theorem list?_eq_some_iff (h : ∀ v x, meaning v = some x ↔ given x v) {v : Value} {xs : List α} :
    Value.list? meaning v = some xs ↔ ∃ vs, v = .array vs ∧ List.Forall₂ given xs vs := by
  cases v with
  | array vs => simp [Value.list?, meaningsOf_eq_some_iff h]
  | _ => simp [Value.list?]

/-- The content of a field for a list is what its values give. -/
theorem exists_contentOf_list?_iff (h : ∀ v x, meaning v = some x ↔ given x v)
    {values : List Value} {xs : List α} :
    (∃ held, contentOf (Value.list? meaning) values = some held ∧ held.getD [] = xs) ↔
      AreGivenBy given xs values := by
  constructor
  · rintro ⟨_ | held, hcontent, rfl⟩
    · exact .inl ⟨contentOf_eq_none_iff.1 hcontent, rfl⟩
    · obtain ⟨v, rfl, hv⟩ := contentOf_eq_some_iff.1 hcontent
      obtain ⟨vs, rfl, hgiven⟩ := (list?_eq_some_iff h).1 hv
      exact .inr ⟨vs, rfl, hgiven⟩
  · rintro (⟨rfl, rfl⟩ | ⟨vs, rfl, hgiven⟩)
    · exact ⟨none, rfl, rfl⟩
    · exact ⟨some xs, contentOf_eq_some_iff.2 ⟨_, rfl, (list?_eq_some_iff h).2 ⟨vs, rfl, hgiven⟩⟩,
        rfl⟩

end Lists

end Json

/-! ### Proxies -/

namespace ProxyConfig

/-- The names of the members of a proxy. -/
def names : List String := ["listen", "target"]

/-- The format of a proxy. -/
def format : Format := .record [("listen", .leaf), ("target", .leaf)]

/-- A value gives a proxy: one member is its listen URL, and one its target URL. -/
def IsGivenBy (proxy : ProxyConfig) (v : Value) : Prop :=
  ∃ listen target, v.field names "listen" = [listen] ∧ listen.url? = some proxy.listen ∧
    v.field names "target" = [target] ∧ target.url? = some proxy.target

/-- One of the URLs is missing, comes up again or is no URL. -/
def IsFaulty (v : Value) : Prop :=
  ∃ name ∈ names, (v.field names name).length ≠ 1 ∨ ∃ u ∈ v.field names name, u.url? = none

theorem IsGivenBy.not_isFaulty {proxy : ProxyConfig} {v : Value} (h : proxy.IsGivenBy v) :
    ¬ IsFaulty v := by
  obtain ⟨listen, target, hlisten, hlistenUrl, htarget, htargetUrl⟩ := h
  rintro ⟨name, hname, hfault⟩
  obtain rfl | rfl : name = "listen" ∨ name = "target" := by simpa [names] using hname
  · simp [hlisten, hlistenUrl] at hfault
  · simp [htarget, htargetUrl] at hfault

def slots : List (Slot Draft) := [
  ⟨"listen", .leaf, Url, (·.listen), fun s x => { s with listen := some x }, Value.url?⟩,
  ⟨"target", .leaf, Url, (·.target), fun s x => { s with target := some x }, Value.url?⟩]

theorem hasSlots : shape.HasSlots slots ⟨none, none⟩ where
  fills := .cons ⟨rfl, fun _ => rfl, fun _ => means_readUrl.map _⟩
    (.cons ⟨rfl, fun _ => rfl, fun _ => means_readUrl.map _⟩ .nil)
  nodup := by decide
  get_set := by simp [slots]
  get_set_of_ne := by simp [slots]
  ext := by
    rintro ⟨l, t⟩ ⟨l', t'⟩ h
    simpa [slots] using h
  start := by simp [slots]
  required := by
    rintro f hf - ⟨l, t⟩ hunset
    simp only [shape, List.mem_cons, List.not_mem_nil, or_false] at hf
    obtain rfl | rfl := hf
    · cases l <;> simp_all [shape, Except.toOption]
    · cases t <;> cases l <;> simp_all [shape, Except.toOption]

/-- The proxy that a value gives. -/
def ofValue? : Value → Option ProxyConfig := Value.record? shape (Slot.update slots) ⟨none, none⟩

theorem finish_eq_some_iff {s : Draft} {proxy : ProxyConfig} :
    (shape.finish s).toOption = some proxy ↔
      s.listen = some proxy.listen ∧ s.target = some proxy.target := by
  obtain ⟨listen, target⟩ := proxy
  obtain ⟨_ | l, _ | t⟩ := s <;> simp [shape, Except.toOption]

theorem ofValue?_eq_some_iff (v : Value) (proxy : ProxyConfig) :
    ofValue? v = some proxy ↔ proxy.IsGivenBy v := by
  rw [ofValue?, hasSlots.record?_eq_some_iff]
  constructor
  · rintro ⟨ms, s, hms, hslots, hfinish⟩
    obtain ⟨hlisten, htarget⟩ := finish_eq_some_iff.1 hfinish
    have hcontents : contentOf Value.url? (valuesOf "listen" ms) = some s.listen ∧
        contentOf Value.url? (valuesOf "target" ms) = some s.target := by
      simpa [slots] using hslots
    rw [hlisten, htarget, contentOf_eq_some_iff, contentOf_eq_some_iff] at hcontents
    obtain ⟨⟨listen, hlisten, hlistenUrl⟩, target, htarget, htargetUrl⟩ := hcontents
    exact ⟨listen, target, (field_eq hms _).trans hlisten, hlistenUrl,
      (field_eq hms _).trans htarget, htargetUrl⟩
  · rintro ⟨listen, target, hlisten, hlistenUrl, htarget, htargetUrl⟩
    obtain ⟨ms, hms⟩ := exists_members?_of_field hlisten
    rw [field_eq hms] at hlisten htarget
    refine ⟨ms, ⟨some proxy.listen, some proxy.target⟩, hms, ?_, rfl⟩
    have hlistenContent := contentOf_eq_some_iff.2 ⟨listen, hlisten, hlistenUrl⟩
    have htargetContent := contentOf_eq_some_iff.2 ⟨target, htarget, htargetUrl⟩
    simpa [slots] using ⟨hlistenContent, htargetContent⟩

theorem respectedBy_ofValue? : format.RespectedBy ofValue? :=
  hasSlots.respectedBy (by simp [slots, respectedBy_url?])

end ProxyConfig

/-! ### Endpoints -/

namespace EndpointConfig

/-- The names of the members of an endpoint. -/
def names : List String := ["host", "proxies"]

/-- The format of an endpoint. -/
def format : Format := .record [("host", .leaf), ("proxies", .list ProxyConfig.format)]

/-- A value gives an endpoint: one member is its host, and one its proxies if it has any. -/
def IsGivenBy (endpoint : EndpointConfig) (v : Value) : Prop :=
  v.field names "host" = [.string (some endpoint.host)] ∧
    AreGivenBy ProxyConfig.IsGivenBy endpoint.proxies (v.field names "proxies")

/-- The host is missing or comes up again, the proxies come up again, or one of them is faulty. -/
def IsFaulty (v : Value) : Prop :=
  (v.field names "host").length ≠ 1 ∨ 1 < (v.field names "proxies").length ∨
    ∃ u ∈ v.listed names "proxies", ProxyConfig.IsFaulty u

theorem IsGivenBy.not_isFaulty {endpoint : EndpointConfig} {v : Value} (h : endpoint.IsGivenBy v) :
    ¬ IsFaulty v := by
  obtain ⟨hhost, hproxies⟩ := h
  rintro (hlength | hfault)
  · exact hlength (by rw [hhost, List.length_singleton])
  · have hproxy (proxy : ProxyConfig) (v : Value) (h : proxy.IsGivenBy v) :
        ¬ ProxyConfig.IsFaulty v := h.not_isFaulty
    exact hproxies.not_faulty hproxy hfault

def slots : List (Slot Draft) := [
  ⟨"host", .leaf, String, (·.host), fun s x => { s with host := some x }, Value.string?⟩,
  ⟨"proxies", .list ProxyConfig.format, List ProxyConfig, (·.proxies),
    fun s x => { s with proxies := some x }, Value.list? ProxyConfig.ofValue?⟩]

theorem hasSlots : shape.HasSlots slots ⟨none, none⟩ where
  fills := .cons ⟨rfl, fun _ => rfl, fun _ => (means_wantedString _).map _⟩
    (.cons ⟨rfl, fun _ => rfl, fun _ => ProxyConfig.hasSlots.means.list.map _⟩ .nil)
  nodup := by decide
  get_set := by simp [slots]
  get_set_of_ne := by simp [slots]
  ext := by
    rintro ⟨host, proxies⟩ ⟨host', proxies'⟩ h
    simpa [slots] using h
  start := by simp [slots]
  required := by
    rintro f hf hrequired ⟨host, proxies⟩ hunset
    simp only [shape, List.mem_cons, List.not_mem_nil, or_false] at hf
    obtain rfl | rfl := hf
    · cases host <;> simp_all [shape, Except.toOption]
    · cases hrequired

/-- The endpoint that a value gives. -/
def ofValue? : Value → Option EndpointConfig :=
  Value.record? shape (Slot.update slots) ⟨none, none⟩

theorem finish_eq_some_iff {s : Draft} {endpoint : EndpointConfig} :
    (shape.finish s).toOption = some endpoint ↔
      s.host = some endpoint.host ∧ s.proxies.getD [] = endpoint.proxies := by
  obtain ⟨host, proxies⟩ := endpoint
  obtain ⟨_ | h, p⟩ := s <;> simp [shape, Except.toOption]

theorem ofValue?_eq_some_iff (v : Value) (endpoint : EndpointConfig) :
    ofValue? v = some endpoint ↔ endpoint.IsGivenBy v := by
  have hproxies (values : List Value) (proxies : List ProxyConfig) :
      (∃ held, contentOf (Value.list? ProxyConfig.ofValue?) values = some held ∧
        held.getD [] = proxies) ↔ AreGivenBy ProxyConfig.IsGivenBy proxies values :=
    exists_contentOf_list?_iff ProxyConfig.ofValue?_eq_some_iff
  rw [ofValue?, hasSlots.record?_eq_some_iff]
  constructor
  · rintro ⟨ms, s, hms, hslots, hfinish⟩
    obtain ⟨hhost, hlist⟩ := finish_eq_some_iff.1 hfinish
    have hcontents : contentOf Value.string? (valuesOf "host" ms) = some s.host ∧
        contentOf (Value.list? ProxyConfig.ofValue?) (valuesOf "proxies" ms) = some s.proxies := by
      simpa [slots] using hslots
    rw [hhost, contentOf_eq_some_iff] at hcontents
    obtain ⟨⟨host, hvalues, hhost⟩, hcontent⟩ := hcontents
    rw [string?_eq_some_iff.1 hhost] at hvalues
    exact ⟨(field_eq hms _).trans hvalues,
      (field_eq hms _).symm ▸ (hproxies _ _).1 ⟨s.proxies, hcontent, hlist⟩⟩
  · rintro ⟨hhost, hgiven⟩
    obtain ⟨ms, hms⟩ := exists_members?_of_field hhost
    rw [field_eq hms] at hhost hgiven
    obtain ⟨held, hcontent, hlist⟩ := (hproxies _ _).2 hgiven
    have hhostContent := contentOf_eq_some_iff.2
      ⟨_, hhost, string?_eq_some_iff.2 (Eq.refl (Value.string (some endpoint.host)))⟩
    refine ⟨ms, ⟨some endpoint.host, held⟩, hms, ?_, finish_eq_some_iff.2 ⟨rfl, hlist⟩⟩
    simpa [slots] using ⟨hhostContent, hcontent⟩

theorem respectedBy_ofValue? : format.RespectedBy ofValue? :=
  hasSlots.respectedBy (by simp [slots, respectedBy_string?, ProxyConfig.respectedBy_ofValue?.list])

end EndpointConfig

/-! ### Files -/

namespace EndpointsFile

/-- The names of the members of a file. -/
def names : List String := ["endpoints"]

/-- The format of a file. -/
def format : Format := .record [("endpoints", .list EndpointConfig.format)]

/-- A value gives the content of a file: one member lists its endpoints, if it has any. -/
def IsGivenBy (file : EndpointsFile) (v : Value) : Prop :=
  (∃ ms, v.members? names = some ms) ∧
    AreGivenBy EndpointConfig.IsGivenBy file.endpoints (v.field names "endpoints")

/-- The endpoints come up again, or one of them is faulty. -/
def IsFaulty (v : Value) : Prop :=
  1 < (v.field names "endpoints").length ∨
    ∃ u ∈ v.listed names "endpoints", EndpointConfig.IsFaulty u

theorem IsGivenBy.not_isFaulty {file : EndpointsFile} {v : Value} (h : file.IsGivenBy v) :
    ¬ IsFaulty v := by
  have hendpoint (endpoint : EndpointConfig) (v : Value) (h : endpoint.IsGivenBy v) :
      ¬ EndpointConfig.IsFaulty v := h.not_isFaulty
  exact h.2.not_faulty hendpoint

def slots : List (Slot (Option (List EndpointConfig))) := [
  ⟨"endpoints", .list EndpointConfig.format, List EndpointConfig, id, fun _ x => some x,
    Value.list? EndpointConfig.ofValue?⟩]

theorem hasSlots : shape.HasSlots slots none where
  fills := .cons ⟨rfl, fun _ => rfl, fun _ => EndpointConfig.hasSlots.means.list.map _⟩ .nil
  nodup := by decide
  get_set := by simp [slots]
  get_set_of_ne := by simp [slots]
  ext := by simp [slots]
  start := by simp [slots]
  required := by simp [shape]

/-- The content of the file that a value gives. -/
def ofValue? : Value → Option EndpointsFile := Value.record? shape (Slot.update slots) none

theorem ofValue?_eq_some_iff (v : Value) (file : EndpointsFile) :
    ofValue? v = some file ↔ file.IsGivenBy v := by
  have hendpoints (values : List Value) :
      (∃ held, contentOf (Value.list? EndpointConfig.ofValue?) values = some held ∧
        held.getD [] = file.endpoints) ↔
          AreGivenBy EndpointConfig.IsGivenBy file.endpoints values :=
    exists_contentOf_list?_iff EndpointConfig.ofValue?_eq_some_iff
  rw [ofValue?, hasSlots.record?_eq_some_iff]
  constructor
  · rintro ⟨ms, held, hms, hslots, hfinish⟩
    have hcontent : contentOf (Value.list? EndpointConfig.ofValue?) (valuesOf "endpoints" ms) =
        some held := by
      simpa [slots] using hslots
    have hfield : v.field names "endpoints" = valuesOf "endpoints" ms := field_eq hms _
    refine ⟨⟨ms, hms⟩, ?_⟩
    rw [hfield]
    refine (hendpoints _).1 ⟨held, hcontent, ?_⟩
    exact congrArg EndpointsFile.endpoints (Option.some.inj hfinish)
  · rintro ⟨⟨ms, hms⟩, hgiven⟩
    rw [field_eq hms] at hgiven
    obtain ⟨held, hcontent, hlist⟩ := (hendpoints _).2 hgiven
    have hfinish : (shape.finish held).toOption = some file := congrArg some (by rw [hlist])
    refine ⟨ms, held, hms, ?_, hfinish⟩
    simpa [slots] using hcontent

theorem respectedBy_ofValue? : format.RespectedBy ofValue? :=
  hasSlots.respectedBy (by simp [slots, EndpointConfig.respectedBy_ofValue?.list])

theorem toOption_parse {v : Value} {text : String} (hv : v.IsSpelledIn text) :
    (parse text).toOption = ofValue? v := by
  have hdocument := hasSlots.means.document hv
  rw [ofValue?, ← hdocument, parse]
  cases document (readRecord shape none) text <;> rfl

/-- A text has the content that its value gives. -/
theorem parse_eq_ok_iff {v : Value} {text : String} (hv : v.IsSpelledIn text)
    (file : EndpointsFile) : parse text = .ok file ↔ file.IsGivenBy v := by
  rw [← ofValue?_eq_some_iff, ← toOption_parse hv]
  cases parse text <;> simp [Except.toOption]

/-- The texts of values that are alike are rejected both, or have the same content, which is the one
that the value gives. The text of a value in which something is missing, repeated or no URL is
rejected. -/
theorem parse_of_alike {v w : Value} {text text' : String} (hv : v.IsSpelledIn text)
    (hw : w.IsSpelledIn text') (halike : format.Alike v w) :
    ((∃ e e', parse text = .error e ∧ parse text' = .error e') ∨
      ∃ file, parse text = .ok file ∧ parse text' = .ok file) ∧
    (∀ file, parse text = .ok file ↔ file.IsGivenBy v) ∧
    (IsFaulty v → ∃ e, parse text = .error e) := by
  refine ⟨?_, parse_eq_ok_iff hv, fun hfaulty => ?_⟩
  · have hsame : (parse text).toOption = (parse text').toOption := by
      rw [toOption_parse hv, toOption_parse hw, respectedBy_ofValue? v w halike]
    cases hparse : parse text with
    | error e =>
      cases hparse' : parse text' with
      | error e' => exact .inl ⟨e, e', rfl, rfl⟩
      | ok file =>
        rw [hparse, hparse'] at hsame
        cases hsame
    | ok file =>
      cases hparse' : parse text' with
      | error e =>
        rw [hparse, hparse'] at hsame
        cases hsame
      | ok file' =>
        rw [hparse, hparse'] at hsame
        obtain rfl := Option.some.inj hsame
        exact .inr ⟨file, rfl, rfl⟩
  · cases hparse : parse text with
    | error e => exact ⟨e, rfl⟩
    | ok file => exact absurd hfaulty ((parse_eq_ok_iff hv file).1 hparse).not_isFaulty

/-- A file with an endpoint without proxies. -/
def bareFile : String :=
  "\x7b\"endpoints\":[\x7b\"host\":\"a\",\"proxies\":[]\x7d]\x7d"

/-- The same file with a blank, an escape, other places of the host and the proxies, and a member of
another name. -/
def variedFile : String :=
  "\x7b\"x\": null,\"endpoints\":" ++
    "[\x7b\"proxies\":[],\"h\\u006fst\":\"a\"\x7d]\x7d"

theorem parse_variedFile :
    (∃ v w, v.IsSpelledIn bareFile ∧ w.IsSpelledIn variedFile ∧ format.Alike v w) ∧
      parse bareFile = .ok ⟨[⟨"a", []⟩]⟩ ∧ parse variedFile = .ok ⟨[⟨"a", []⟩]⟩ := by
  let plain (s : String) : List Piece := s.toList.map .plain
  have ha : IsSpelled (.string (some "a")) ['"', 'a', '"'] :=
    @IsSpelled.string [.plain 'a'] (by decide)
  have hempty : IsSpelled (.array []) ['[', ']'] :=
    @IsSpelled.array [] [] areBlank_nil nofun nofun
  have hendpoint :
      IsSpelled (.object [(some "host", .string (some "a")), (some "proxies", .array [])])
        "\x7b\"host\":\"a\",\"proxies\":[]\x7d".toList :=
    @IsSpelled.object []
      [(.string (some "a"), ⟨[], plain "host", [], ⟨[], ['"', 'a', '"'], []⟩⟩),
        (.array [], ⟨[], plain "proxies", [], ⟨[], ['[', ']'], []⟩⟩)]
      areBlank_nil (by decide) (by simp [AreBlank]) (by simp [ha, hempty])
  let escaped : List Piece := [.plain 'h', .unit '0' '0' '6' 'f', .plain 's', .plain 't']
  have hescaped : stringOf escaped = some "host" := by decide +kernel
  have hreordered :
      IsSpelled (.object [(some "proxies", .array []), (stringOf escaped, .string (some "a"))])
        "\x7b\"proxies\":[],\"h\\u006fst\":\"a\"\x7d".toList :=
    @IsSpelled.object []
      [(.array [], ⟨[], plain "proxies", [], ⟨[], ['[', ']'], []⟩⟩),
        (.string (some "a"), ⟨[], escaped, [], ⟨[], ['"', 'a', '"'], []⟩⟩)]
      areBlank_nil (by decide) (by simp [AreBlank]) (by simp [ha, hempty])
  rw [hescaped] at hreordered
  have hfile : IsSpelled
      (.object [(some "endpoints",
        .array [.object [(some "host", .string (some "a")), (some "proxies", .array [])]])])
      bareFile.toList :=
    @IsSpelled.object []
      [(_, ⟨[], plain "endpoints", [], ⟨[], _, []⟩⟩)]
      areBlank_nil (by decide) (by simp [AreBlank])
      (List.forall_mem_singleton.2 (@IsSpelled.array [] [(_, ⟨[], _, []⟩)] areBlank_nil
        (by simp [AreBlank]) (List.forall_mem_singleton.2 hendpoint)))
  have hvaried : IsSpelled
      (.object [(some "x", .null), (some "endpoints",
        .array [.object [(some "proxies", .array []), (some "host", .string (some "a"))]])])
      variedFile.toList :=
    @IsSpelled.object []
      [(.null, ⟨[], plain "x", [], ⟨[' '], ['n', 'u', 'l', 'l'], []⟩⟩),
        (_, ⟨[], plain "endpoints", [], ⟨[], _, []⟩⟩)]
      areBlank_nil (by decide) (by simp [AreBlank])
      (List.forall_mem_cons.2 ⟨.null, List.forall_mem_singleton.2
        (@IsSpelled.array [] [(_, ⟨[], _, []⟩)] areBlank_nil
          (by simp [AreBlank]) (List.forall_mem_singleton.2 hreordered))⟩)
  have hspelled {v : Value} {text : String} (h : IsSpelled v text.toList) : v.IsSpelledIn text :=
    ⟨⟨[], text.toList, []⟩, areBlank_nil, areBlank_nil, h, by simp [Spaced.text]⟩
  have hknows : ¬ format.Knows "x" := by simp [format, Format.Knows]
  have hendpoints := @Format.Alike.element (.list EndpointConfig.format) [] _ _
    (.permuted (.swap (some "proxies", .array []) (some "host", .string (some "a")) [])) []
  have halike := (@Format.Alike.member format (some "endpoints") _ _ hendpoints []).trans
    (.unknown hknows .null _)
  have hgiven : IsGivenBy ⟨[⟨"a", []⟩]⟩
      (.object [(some "endpoints",
        .array [.object [(some "host", .string (some "a")), (some "proxies", .array [])]])]) :=
    ⟨⟨_, rfl⟩, .inr ⟨_, rfl, .cons ⟨rfl, .inr ⟨[], rfl, .nil⟩⟩ .nil⟩⟩
  obtain ⟨hsame, hgives, -⟩ := parse_of_alike (hspelled hfile) (hspelled hvaried) halike
  have hbare := (hgives _).2 hgiven
  refine ⟨⟨_, _, hspelled hfile, hspelled hvaried, halike⟩, hbare, ?_⟩
  obtain ⟨e, e', herror, -⟩ | ⟨file, hok, hok'⟩ := hsame
  · rw [hbare] at herror
    cases herror
  · rw [hbare] at hok
    rw [hok', ← hok]

end EndpointsFile

end Gatehouse
