import Gatehouse.Proofs.Text.Cutting
import Gatehouse.Proofs.Text.Numerals
import Gatehouse.Target

/-!
# Which paths name a workload

A path names a workload by its segments: the second one is the app, the third one the kind, and the
fourth one the selector, whose first two tokens are the name and the port. What is wrong with a path
that names none is the first thing that is wrong from the left, and what follows the selector, or
the second token in it, is never looked at.

## Main definitions

* `Target.IsPort` : the texts of a port number.
* `Target.Reads` : what a path with given segments is read as.

## Main results

* `Target.reads_parse`, `Target.Reads.parse_eq` : a path is read as the relation says.
* `Target.parse_written` : the path that is written for a workload is read back.
* `Target.target_of_path` : both in one.
-/

namespace Gatehouse

namespace TargetKind

theorem ofName?_eq_some_iff {word : String} {kind : TargetKind} :
    ofName? word = some kind ↔ word = kind.name := by
  unfold ofName?
  split_ifs with hservice hresource
  · subst hservice
    cases kind <;> decide
  · subst hresource
    cases kind <;> decide
  · cases kind
    · exact iff_of_false nofun hservice
    · exact iff_of_false nofun hresource

theorem ofName?_eq_none_iff {word : String} :
    ofName? word = none ↔ ∀ kind : TargetKind, word ≠ kind.name := by
  simp only [Option.eq_none_iff_forall_ne_some, ne_eq, ofName?_eq_some_iff]

end TargetKind

namespace Target

open Text (IsCut isCut_iff)

/-- A text is that of a port number. -/
def IsPort (token : List Char) (port : Nat) : Prop := Numeral.Denotes token port ∧ port ≤ 65535

/-- Something is wrong with the selector of a workload: it has no colon or starts with one, or it is
that of a service, and what stands behind the first colon, up to a second one, is no port number. -/
def IsMalformedSelector (kind : TargetKind) (selector : List Char) : Prop :=
  ':' ∉ selector ∨ selector.head? = some ':' ∨
    kind = .service ∧ ∃ name token others,
      IsCut ':' selector (name :: token :: others) ∧ ∀ port, ¬ IsPort token port

/-- What a path is read as, by its segments. -/
inductive Reads (path : String) : List (List Char) → Except TargetError Target → Prop where
  /-- There are fewer than four segments, or the app is empty. -/
  | malformedPath {segments : List (List Char)}
      (hsegments : segments.length < 4 ∨ segments[1]? = some []) :
      Reads path segments (.error (.malformedPath path))
  /-- The third segment is the word for no kind. -/
  | unknownKind {root app word selector : List Char} {more : List (List Char)} (happ : app ≠ [])
      (hword : ∀ kind : TargetKind, word ≠ kind.name.toList) :
      Reads path (root :: app :: word :: selector :: more)
        (.error (.unknownKind (String.ofList word)))
  /-- The fourth segment is no selector. -/
  | malformedSelector {root app selector : List Char} {kind : TargetKind}
      {more : List (List Char)} (happ : app ≠ []) (hselector : IsMalformedSelector kind selector) :
      Reads path (root :: app :: kind.name.toList :: selector :: more)
        (.error (.malformedSelector kind.name (String.ofList selector)))
  /-- The selector starts with a name and a colon, and the port is the number behind it. There is
  none only if there is no number for a resource. -/
  | workload {root app selector name token : List Char} {kind : TargetKind} {port : Option Nat}
      {more others : List (List Char)} (happ : app ≠ []) (hname : name ≠ [])
      (hselector : IsCut ':' selector (name :: token :: others))
      (hport : ∀ n, port = some n ↔ IsPort token n) (hkind : port = none → kind = .resource) :
      Reads path (root :: app :: kind.name.toList :: selector :: more)
        (.ok ⟨String.ofList app, kind, String.ofList name, port⟩)

/-! ### Selectors -/

section Selectors

variable {path : String} {root app selector name token : List Char} {kind : TargetKind}
  {more others : List (List Char)} {port : Nat}

theorem readPort_eq_ok_iff : Numeral.readPort token = .ok port ↔ IsPort token port := by
  rw [Numeral.readPort, Numeral.read_eq_ok_iff, IsPort, Nat.lt_succ_iff]

theorem portOf_of_isPort (h : IsPort token port) :
    portOf kind selector token = .ok (some port) := by
  unfold portOf
  rw [readPort_eq_ok_iff.2 h]

/-- Without a port number, a resource has no port, and a service is refused. -/
theorem portOf_of_not_isPort (h : ∀ port, ¬ IsPort token port) :
    portOf .resource selector token = .ok none ∧ portOf .service selector token =
      .error (.malformedSelector TargetKind.service.name (String.ofList selector)) := by
  unfold portOf
  cases hread : Numeral.readPort token with
  | ok port => exact absurd (readPort_eq_ok_iff.1 hread) (h port)
  | error fault => exact ⟨rfl, rfl⟩

theorem ofSelector_of_isCut (hselector : IsCut ':' selector (name :: token :: others))
    (hname : name ≠ []) :
    ofSelector app kind selector = (portOf kind selector token).map fun port =>
      ⟨String.ofList app, kind, String.ofList name, port⟩ := by
  unfold ofSelector
  rw [isCut_iff.1 hselector]
  exact if_neg hname

/-- A selector without a name is refused. -/
theorem ofSelector_of_nameless (h : ':' ∉ selector ∨ selector.head? = some ':') :
    ofSelector app kind selector =
      .error (.malformedSelector kind.name (String.ofList selector)) := by
  unfold ofSelector
  rcases h with hcolon | hhead
  · rw [Text.splitOn_of_notMem hcolon]
  · obtain ⟨rest, rfl⟩ := List.head?_eq_some_iff.1 hhead
    have hsplit : Text.splitOn ':' (':' :: rest) = [] :: Text.splitOn ':' rest :=
      Text.splitOn_append List.not_mem_nil rest
    rw [hsplit]
    cases hrest : Text.splitOn ':' rest with
    | nil => exact absurd hrest (Text.splitOn_ne_nil ':' rest)
    | cons token others => exact if_pos rfl

theorem IsMalformedSelector.ofSelector_eq (h : IsMalformedSelector kind selector) :
    ofSelector app kind selector =
      .error (.malformedSelector kind.name (String.ofList selector)) := by
  by_cases hnameless : ':' ∉ selector ∨ selector.head? = some ':'
  · exact ofSelector_of_nameless hnameless
  · obtain ⟨hcolon, hhead⟩ := not_or.1 hnameless
    obtain ⟨rfl, name, token, others, hcut, hport⟩ := (h.resolve_left hcolon).resolve_left hhead
    have hname : name ≠ [] := by
      rintro rfl
      exact hhead (by rw [← hcut.joined]; rfl)
    rw [ofSelector_of_isCut hcut hname, (portOf_of_not_isPort hport).2]
    rfl

/-- A selector is a name with a token behind it, unless it has no name. -/
theorem exists_isCut (h : ¬ (':' ∉ selector ∨ selector.head? = some ':')) :
    ∃ name token others, name ≠ [] ∧ IsCut ':' selector (name :: token :: others) := by
  obtain ⟨hcolon, hhead⟩ := not_or.1 h
  have hcut : IsCut ':' selector (Text.splitOn ':' selector) := isCut_iff.2 rfl
  generalize Text.splitOn ':' selector = tokens at hcut
  match tokens, hcut with
  | [], hcut => exact absurd rfl hcut.ne_nil
  | [token], hcut => exact absurd (hcut.joined ▸ hcut.notMem token (.head _)) hcolon
  | name :: token :: others, hcut =>
    refine ⟨name, token, others, ?_, hcut⟩
    rintro rfl
    exact hhead (by rw [← hcut.joined]; rfl)

/-- What the segment behind a kind is read as. -/
theorem reads_ofSelector (happ : app ≠ []) :
    Reads path (root :: app :: kind.name.toList :: selector :: more)
      (ofSelector app kind selector) := by
  by_cases hnameless : ':' ∉ selector ∨ selector.head? = some ':'
  · rw [ofSelector_of_nameless hnameless]
    exact .malformedSelector happ (hnameless.imp_right .inl)
  · obtain ⟨name, token, others, hname, hcut⟩ := exists_isCut hnameless
    rw [ofSelector_of_isCut hcut hname]
    by_cases hport : ∃ port, IsPort token port
    · obtain ⟨port, hport⟩ := hport
      rw [portOf_of_isPort hport]
      refine .workload happ hname hcut (fun n => ?_) nofun
      rw [Option.some.injEq, ← readPort_eq_ok_iff, readPort_eq_ok_iff.2 hport, Except.ok.injEq]
    · have hport := not_exists.1 hport
      cases kind with
      | resource =>
        rw [(portOf_of_not_isPort hport).1]
        exact .workload happ hname hcut (fun n => iff_of_false nofun (hport n)) fun _ => rfl
      | service =>
        rw [(portOf_of_not_isPort hport).2]
        exact .malformedSelector happ (.inr (.inr ⟨rfl, name, token, others, hcut, hport⟩))

end Selectors

/-! ### Paths -/

section Paths

variable {path : String} {segments : List (List Char)} {result : Except TargetError Target}

/-- A path has an app, a kind and a selector, unless it has too few segments or an empty app. -/
theorem exists_segments (h : ¬ (segments.length < 4 ∨ segments[1]? = some [])) :
    ∃ root app word selector more,
      app ≠ [] ∧ segments = root :: app :: word :: selector :: more := by
  obtain ⟨hlength, happ⟩ := not_or.1 h
  match segments with
  | [] | [_] | [_, _] | [_, _, _] => exact absurd (by simp) hlength
  | root :: app :: word :: selector :: more =>
    exact ⟨root, app, word, selector, more, fun hempty => happ (congrArg some hempty), rfl⟩

theorem parse_of_isShort (hcut : IsCut '/' path.toList segments)
    (h : segments.length < 4 ∨ segments[1]? = some []) :
    parse path = .error (.malformedPath path) := by
  unfold parse
  rw [isCut_iff.1 hcut]
  split
  next root app word selector more =>
    rcases h with hlength | hempty
    · simp only [List.length_cons] at hlength
      omega
    · exact if_pos (Option.some.inj hempty)
  next => rfl

theorem parse_of_segments {root app word selector : List Char} {more : List (List Char)}
    (hcut : IsCut '/' path.toList (root :: app :: word :: selector :: more)) (happ : app ≠ []) :
    parse path = match TargetKind.ofName? (String.ofList word) with
      | none => .error (.unknownKind (String.ofList word))
      | some kind => ofSelector app kind selector := by
  unfold parse
  rw [isCut_iff.1 hcut]
  exact if_neg happ

theorem parse_of_kind {root app selector : List Char} {kind : TargetKind}
    {more : List (List Char)}
    (hcut : IsCut '/' path.toList (root :: app :: kind.name.toList :: selector :: more))
    (happ : app ≠ []) : parse path = ofSelector app kind selector := by
  rw [parse_of_segments hcut happ, String.ofList_toList,
    TargetKind.ofName?_eq_some_iff.2 rfl]

theorem parse_of_noKind {root app word selector : List Char} {more : List (List Char)}
    (hcut : IsCut '/' path.toList (root :: app :: word :: selector :: more)) (happ : app ≠ [])
    (hword : ∀ kind : TargetKind, word ≠ kind.name.toList) :
    parse path = .error (.unknownKind (String.ofList word)) := by
  have hnone : TargetKind.ofName? (String.ofList word) = none :=
    TargetKind.ofName?_eq_none_iff.2 fun kind hkind => hword kind (by
      rw [← hkind, String.toList_ofList])
  rw [parse_of_segments hcut happ, hnone]

/-- Every path is read as the relation says. -/
theorem reads_parse (hcut : IsCut '/' path.toList segments) :
    Reads path segments (parse path) := by
  by_cases hshort : segments.length < 4 ∨ segments[1]? = some []
  · rw [parse_of_isShort hcut hshort]
    exact .malformedPath hshort
  · obtain ⟨root, app, word, selector, more, happ, rfl⟩ := exists_segments hshort
    by_cases hkind : ∃ kind : TargetKind, word = kind.name.toList
    · obtain ⟨kind, rfl⟩ := hkind
      rw [parse_of_kind hcut happ]
      exact reads_ofSelector happ
    · have hword := not_exists.1 hkind
      rw [parse_of_noKind hcut happ hword]
      exact .unknownKind happ hword

/-- What the relation says is what a path is read as. -/
theorem Reads.parse_eq (h : Reads path segments result) (hcut : IsCut '/' path.toList segments) :
    parse path = result := by
  cases h with
  | malformedPath hshort => exact parse_of_isShort hcut hshort
  | unknownKind happ hword => exact parse_of_noKind hcut happ hword
  | malformedSelector happ hselector =>
    rw [parse_of_kind hcut happ]
    exact hselector.ofSelector_eq
  | @workload root app selector name token kind port more others happ hname hselector hport hkind =>
    rw [parse_of_kind hcut happ, ofSelector_of_isCut hselector hname]
    cases port with
    | some n =>
      rw [portOf_of_isPort ((hport n).1 rfl)]
      rfl
    | none =>
      obtain rfl := hkind rfl
      have hnone : ∀ n, ¬ IsPort token n := fun n hn => Option.some_ne_none n ((hport n).2 hn).symm
      rw [(portOf_of_not_isPort hnone).1]
      rfl

/-- A written number is the text of a port number, unless it is too large. -/
theorem isPort_digits_iff {port n : Nat} (hport : port ≤ 65535) :
    IsPort (Numeral.digits port) n ↔ port = n := by
  have hread : Numeral.readPort (Numeral.digits port) = .ok port :=
    Numeral.read_digits (Nat.lt_succ_of_le hport)
  rw [← readPort_eq_ok_iff, hread, Except.ok.injEq]

theorem notMem_digits {c : Char} (hc : c.isDigit = false) (n : Nat) : c ∉ Numeral.digits n := by
  intro hmem
  rw [Numeral.isSome_digit?_iff.1 (Numeral.isSome_digit?_of_mem_digits hmem)] at hc
  cases hc

/-- The path that is written for a workload is read back. -/
theorem parse_written {app name : String} {port : Nat} (kind : TargetKind)
    (happ : app ≠ "") (happ' : '/' ∉ app.toList) (hname : name ≠ "") (hname' : '/' ∉ name.toList)
    (hcolon : ':' ∉ name.toList) (hport : port ≤ 65535) :
    parse ("/" ++ app ++ "/" ++ kind.name ++ "/" ++ name ++ ":" ++ toString port) =
      .ok ⟨app, kind, name, some port⟩ := by
  let path := "/" ++ app ++ "/" ++ kind.name ++ "/" ++ name ++ ":" ++ toString port
  let selector := name.toList ++ ':' :: Numeral.digits port
  have hkind : '/' ∉ kind.name.toList := by cases kind <;> decide
  have hslash : '/' ∉ selector := by
    simp [selector, hname', notMem_digits (show '/'.isDigit = false from rfl) port]
  have hcut : IsCut '/' path.toList [[], app.toList, kind.name.toList, selector] := by
    refine ⟨List.cons_ne_nil _ _, ?_, ?_⟩
    · simp [happ', hkind, hslash]
    · simp [path, selector, Text.joinWith, Numeral.digits]
  have hselector : IsCut ':' selector [name.toList, Numeral.digits port] := by
    refine ⟨List.cons_ne_nil _ _, ?_, ?_⟩
    · simp [hcolon, notMem_digits (show ':'.isDigit = false from rfl) port]
    · simp [selector, Text.joinWith]
  have hport' (n : Nat) : some port = some n ↔ IsPort (Numeral.digits port) n := by
    rw [Option.some.injEq, isPort_digits_iff hport]
  have hreads : Reads path [[], app.toList, kind.name.toList, selector]
      (.ok ⟨String.ofList app.toList, kind, String.ofList name.toList, some port⟩) :=
    .workload (mt String.toList_eq_nil_iff.1 happ) (mt String.toList_eq_nil_iff.1 hname)
      hselector hport' nofun
  rw [String.ofList_toList, String.ofList_toList] at hreads
  exact hreads.parse_eq hcut

/-- What every path is read as.

A path is malformed if it has fewer than four segments or an empty app. Otherwise its kind is
unknown if its third segment is the word for none. Otherwise its selector is malformed if it has no
colon or no name in front of the first one, or if for a service the token behind it is no port
number. Otherwise it names the workload with this app, kind and name, and with the port number,
which is missing only for a resource whose token is none. So the path that is written for a workload
is read back. -/
theorem target_of_path {path : String} {segments : List (List Char)}
    (hcut : IsCut '/' path.toList segments) :
    (∀ result, parse path = result ↔ Reads path segments result) ∧
    ∀ (app name : String) (kind : TargetKind) (port : Nat), app ≠ "" → '/' ∉ app.toList →
      name ≠ "" → '/' ∉ name.toList → ':' ∉ name.toList → port ≤ 65535 →
      parse ("/" ++ app ++ "/" ++ kind.name ++ "/" ++ name ++ ":" ++ toString port) =
        .ok ⟨app, kind, name, some port⟩ := by
  refine ⟨fun result => ⟨?_, fun h => h.parse_eq hcut⟩, ?_⟩
  · rintro rfl
    exact reads_parse hcut
  · exact fun app name kind port happ happ' hname hname' hcolon hport =>
      parse_written kind happ happ' hname hname' hcolon hport

/-- A path with more segments and tokens than it needs, and with a sign and a zero in front of its
port. -/
theorem target_of_lavishPath :
    IsCut '/' "/shop/service/web:+080:9/more".toList
      ["".toList, "shop".toList, "service".toList, "web:+080:9".toList, "more".toList] ∧
    Reads "/shop/service/web:+080:9/more"
      ["".toList, "shop".toList, "service".toList, "web:+080:9".toList, "more".toList]
      (.ok ⟨"shop", .service, "web", some 80⟩) := by
  have hcut : IsCut '/' "/shop/service/web:+080:9/more".toList
      ["".toList, "shop".toList, "service".toList, "web:+080:9".toList, "more".toList] :=
    isCut_iff.2 (by decide)
  exact ⟨hcut, ((target_of_path hcut).1 _).1 (by decide)⟩

end Paths

end Target

end Gatehouse
