import Gatehouse.Proofs.Text.Numerals
import Gatehouse.Proofs.Url.Authorities

/-!
# The texts of URLs

The parts of a URL that has been read can be told apart in its text: each part ends at a sign that
it does not contain. So the text determines the URL.

## Main definitions

* `Authority.IsFormed`, `Url.IsFormed`: the parts do not contain the signs that end them.

## Main results

* `Host.IsRead.eq_of_text_eq`, `Authority.IsFormed.eq_of_text_eq`, `Url.IsFormed.eq_of_text_eq`: the
  text determines the parts.
* `Url.isFormed_of_parse`: the URLs that are read are of this form.
* `Url.eq_of_text_eq`: URLs that have been read are the same if their texts are.
-/

namespace Gatehouse

/-- Two texts are cut at the first characters of a class in the same way. -/
theorem Text.append_inj_of_class {p : Char → Bool} {a a' b b' : List Char}
    (ha : ∀ c ∈ a, p c = false) (ha' : ∀ c ∈ a', p c = false) (hb : ∀ c ∈ b.head?, p c = true)
    (hb' : ∀ c ∈ b'.head?, p c = true) (h : a ++ b = a' ++ b') : a = a' ∧ b = b' := by
  have hcut {a b : List Char} (ha : ∀ c ∈ a, p c = false) (hb : ∀ c ∈ b.head?, p c = true) :
      (a ++ b).takeWhile (fun c => !p c) = a := by
    have hnone : b.takeWhile (fun c => !p c) = [] := by
      cases b with
      | nil => rfl
      | cons c b => simp [hb c rfl]
    rw [List.takeWhile_append_of_pos fun c hc => by rw [ha c hc]; rfl, hnone, List.append_nil]
  obtain rfl : a = a' := by rw [← hcut ha hb, h, hcut ha' hb']
  exact ⟨rfl, List.append_cancel_left h⟩

/-! ### Hosts -/

theorem Ipv6.groupsText_injective : Function.Injective groupsText := fun x y h => by
  have hback := congrArg ofBracketed? h
  rwa [ofBracketed?_groupsText, ofBracketed?_groupsText, Option.some.injEq] at hback

theorem Ipv4.text_injective : Function.Injective text := fun x y h => by
  have hback := congrArg ofDomain? h
  rwa [ofDomain?_text, ofDomain?_text, Option.some.injEq] at hback

namespace Host

variable {special : Bool} {host host' : Host}

/-- An address in brackets is no name, and no address of version 4. -/
theorem text_v6_ne (x : Ipv6) (h : IsRead special host) (hv6 : ∀ y, host ≠ .v6 y) :
    (Host.v6 x).text ≠ host.text := by
  intro heq
  refine absurd (h.isNameChar hv6 '[' ?_) (by decide)
  rw [← heq, text, String.toList_ofList]
  exact List.mem_cons_self

/-- An address of version 4 is no name: where there are such addresses, no name ends in a number. -/
theorem text_v4_ne {x : Ipv4} {name : String} (h : IsRead special (.v4 x))
    (h' : IsRead special (.name name)) : (Host.v4 x).text ≠ name := by
  intro heq
  cases h with
  | v4 =>
    cases h' with
    | domain hne hnumber hchars =>
      rw [text, String.ofList_inj] at heq
      rw [← heq, Ipv4.endsInNumber_text] at hnumber
      cases hnumber

/-- The text of a host determines the host. -/
theorem IsRead.eq_of_text_eq (h : IsRead special host) (h' : IsRead special host')
    (htext : host.text = host'.text) : host = host' := by
  cases host with
  | v6 x =>
    cases host' with
    | v6 y =>
      rw [text, text, String.ofList_inj, List.append_cancel_right_eq, List.cons.injEq] at htext
      rw [Ipv6.groupsText_injective htext.2]
    | v4 y => exact absurd htext (text_v6_ne x h' (by simp))
    | name => exact absurd htext (text_v6_ne x h' (by simp))
  | v4 x =>
    cases host' with
    | v6 y => exact absurd htext.symm (text_v6_ne y h (by simp))
    | v4 y =>
      rw [text, text, String.ofList_inj] at htext
      rw [Ipv4.text_injective htext]
    | name => exact absurd htext (text_v4_ne h h')
  | name =>
    cases host' with
    | v6 y => exact absurd htext.symm (text_v6_ne y h (by simp))
    | v4 y => exact absurd htext.symm (text_v4_ne h' h)
    | name => exact congrArg Host.name htext

theorem IsRead.text_ne_nil (h : IsRead special host) : host.text.toList ≠ [] := by
  cases h with
  | v6 special x =>
    rw [text, String.toList_ofList]
    exact List.cons_ne_nil _ _
  | v4 x =>
    rw [text, String.toList_ofList]
    exact x.text_ne_nil
  | domain hne hnumber hchars =>
    rw [text, String.toList_ofList]
    exact hne
  | encoded hne hchars =>
    rw [text, String.toList_ofList]
    exact Percent.encode_ne_nil _ hne

end Host

/-! ### Authorities -/

namespace Authority

open Percent (IsEncoded inUserinfo)

theorem isKept_inUserinfo : Percent.IsKept inUserinfo := ⟨by decide, by decide⟩

/-- The user name and the password are encoded, and the host is one that has been read. -/
structure IsFormed (special : Bool) (x : Authority) : Prop where
  username : IsEncoded inUserinfo x.username.toList
  password : ∀ p ∈ x.password, IsEncoded inUserinfo p.toList
  host : ∀ host ∈ x.host, host.IsRead special

/-- The text of a password with its colon. -/
def passwordText (x : Authority) : List Char :=
  match x.password with
  | none => []
  | some p => ':' :: p.toList

/-- The text of a host. -/
def hostText (x : Authority) : List Char :=
  match x.host with
  | none => []
  | some host => host.text.toList

/-- The text of a port with its colon. -/
def portText (x : Authority) : List Char :=
  match x.port with
  | none => []
  | some p => ':' :: Numeral.digits p

/-- The text of the user name and the password with the sign behind them, unless both are empty. -/
def userText (x : Authority) : List Char :=
  if x.username = "" ∧ x.password = none then []
  else x.username.toList ++ (x.passwordText ++ ['@'])

theorem toList_text (x : Authority) :
    x.text.toList = x.userText ++ (x.hostText ++ x.portText) := by
  obtain ⟨username, password, host, port⟩ := x
  rw [text, userText, passwordText, hostText, portText]
  cases password <;> cases host <;> cases port <;> by_cases hname : username = "" <;>
    simp [hname, Numeral.digits]

variable {special : Bool} {x y : Authority}

theorem passwordText_injective (h : x.passwordText = y.passwordText) :
    x.password = y.password := by
  unfold passwordText at h
  cases hx : x.password with
  | none => cases hy : y.password <;> simp_all
  | some p =>
    cases hy : y.password with
    | none => simp_all
    | some q =>
      rw [hx, hy, List.cons.injEq, String.toList_inj] at h
      rw [h.2]

theorem portText_injective (h : x.portText = y.portText) : x.port = y.port := by
  unfold portText at h
  cases hx : x.port with
  | none => cases hy : y.port <;> simp_all
  | some p =>
    cases hy : y.port with
    | none => simp_all
    | some q =>
      rw [hx, hy, List.cons.injEq] at h
      rw [Numeral.toDigits_injective (by decide) (by decide) h.2]

namespace IsFormed

theorem notMem_username (hx : x.IsFormed special) {c : Char} (hc : inUserinfo c = true) :
    c ∉ x.username.toList := fun hmem => by
  rw [hx.username c hmem] at hc
  cases hc

/-- The signs of other parts are not in the place, which is the host with the port. -/
theorem notMem_place (hx : x.IsFormed special) {c : Char} (hc : Host.isTextChar c = false) :
    c ∉ x.hostText ++ x.portText := by
  intro hmem
  rcases List.mem_append.1 hmem with hhost | hport
  · unfold hostText at hhost
    split at hhost
    next => cases hhost
    next host hsome =>
      rw [(hx.host host hsome).isTextChar c hhost] at hc
      cases hc
  · unfold portText at hport
    split at hport
    next => cases hport
    next p _ =>
      rcases List.mem_cons.1 hport with rfl | hport
      · exact absurd hc (by decide)
      · obtain ⟨d, hd, rfl⟩ := Numeral.exists_digit_of_mem_toDigits (by decide) hport
        have hdigit := Host.isNameChar_digitChar (Nat.lt_trans hd (by decide : 10 < 16))
        rw [Host.isTextChar_of_isNameChar hdigit] at hc
        cases hc

/-- The host is cut off in front of the port, with a colon behind the port as with none. -/
theorem cutHost_place (hx : x.IsFormed special) :
    (cutHost false (x.hostText ++ x.portText ++ [':'])).1 = x.hostText := by
  have hcut (rest : List Char) : cutHost false (x.hostText ++ ':' :: rest) =
      (x.hostText, ':' :: rest) := by
    unfold hostText
    split
    next => simp [cutHost]
    next host hsome => exact cutHost_text (hx.host host hsome) rest
  unfold portText
  split
  next => rw [List.append_nil, hcut]
  next p _ => rw [List.append_assoc, List.cons_append, hcut]

/-- The place determines the host and the port. -/
theorem eq_of_place_eq (hx : x.IsFormed special) (hy : y.IsFormed special)
    (h : x.hostText ++ x.portText = y.hostText ++ y.portText) :
    x.host = y.host ∧ x.port = y.port := by
  have hhost : x.hostText = y.hostText := by
    rw [← hx.cutHost_place, h, hy.cutHost_place]
  have hport : x.portText = y.portText := List.append_cancel_left (hhost ▸ h)
  refine ⟨?_, portText_injective hport⟩
  unfold hostText at hhost
  cases hxh : x.host with
  | none =>
    cases hyh : y.host with
    | none => rfl
    | some b =>
      rw [hxh, hyh] at hhost
      exact absurd hhost.symm (hy.host b hyh).text_ne_nil
  | some a =>
    cases hyh : y.host with
    | none =>
      rw [hxh, hyh] at hhost
      exact absurd hhost (hx.host a hxh).text_ne_nil
    | some b =>
      rw [hxh, hyh] at hhost
      rw [(hx.host a hxh).eq_of_text_eq (hy.host b hyh) (String.toList_inj.1 hhost)]

theorem notMem_user (hx : x.IsFormed special) : '@' ∉ x.username.toList ++ x.passwordText := by
  intro hmem
  rcases List.mem_append.1 hmem with hname | hpassword
  · exact hx.notMem_username (by decide) hname
  · unfold passwordText at hpassword
    split at hpassword
    next => cases hpassword
    next p hsome =>
      rcases List.mem_cons.1 hpassword with heq | hpassword
      · exact absurd heq (by decide)
      · exact absurd (hx.password p hsome '@' hpassword) (by decide)

/-- The text is cut at the sign behind the user name and the password, if there are any. -/
theorem cutFirst_text (hx : x.IsFormed special) :
    Text.cutFirst '@' x.text.toList =
      if x.username = "" ∧ x.password = none then none
      else some (x.username.toList ++ x.passwordText, x.hostText ++ x.portText) := by
  rw [toList_text, userText]
  split_ifs with hempty
  · rw [List.nil_append, Text.cutFirst_eq_none_iff]
    exact hx.notMem_place (by decide)
  · have htext : x.username.toList ++ (x.passwordText ++ ['@']) ++ (x.hostText ++ x.portText) =
        x.username.toList ++ x.passwordText ++ '@' :: (x.hostText ++ x.portText) := by
      simp
    rw [htext, Text.cutFirst_append hx.notMem_user]

/-- The user name ends at the colon of the password. -/
theorem eq_of_user_eq (hx : x.IsFormed special) (hy : y.IsFormed special)
    (h : x.username.toList ++ x.passwordText = y.username.toList ++ y.passwordText) :
    x.username = y.username ∧ x.password = y.password := by
  have hname {x : Authority} (hx : x.IsFormed special) :
      ∀ c ∈ x.username.toList, (c == ':') = false := by
    intro c hc
    exact beq_false_of_ne fun heq => hx.notMem_username (by decide) (heq ▸ hc)
  have hcolon (x : Authority) : ∀ c ∈ x.passwordText.head?, (c == ':') = true := by
    unfold passwordText
    split
    next => exact nofun
    next => simp
  obtain ⟨hnames, hpasswords⟩ :=
    Text.append_inj_of_class (hname hx) (hname hy) (hcolon x) (hcolon y) h
  exact ⟨String.toList_inj.1 hnames, passwordText_injective hpasswords⟩

/-- The text of an authority determines the authority. -/
theorem eq_of_text_eq (hx : x.IsFormed special) (hy : y.IsFormed special)
    (h : x.text = y.text) : x = y := by
  have hcut := hx.cutFirst_text
  rw [h, hy.cutFirst_text] at hcut
  have hparts : (x.username = y.username ∧ x.password = y.password) ∧
      x.host = y.host ∧ x.port = y.port := by
    split_ifs at hcut with hempty hempty'
    · have hplace : x.hostText ++ x.portText = y.hostText ++ y.portText := by
        have htext := congrArg String.toList h
        rwa [toList_text, toList_text, userText, userText, if_pos hempty, if_pos hempty'] at htext
      exact ⟨⟨hempty'.1.trans hempty.1.symm, hempty'.2.trans hempty.2.symm⟩,
        hx.eq_of_place_eq hy hplace⟩
    · obtain ⟨huser, hplace⟩ := Prod.mk.inj (Option.some.inj hcut)
      exact ⟨hx.eq_of_user_eq hy huser.symm, hx.eq_of_place_eq hy hplace.symm⟩
  obtain ⟨⟨husername, hpassword⟩, hhost, hport⟩ := hparts
  cases x
  cases y
  simp_all

/-- The signs of other parts are not in the text of an authority. -/
theorem notMem_text (hx : x.IsFormed special) {c : Char} (hc : inUserinfo c = true)
    (hplace : Host.isTextChar c = false) (hsign : c ≠ '@') : c ∉ x.text.toList := by
  have hcolon : c ≠ ':' := by
    rintro rfl
    exact absurd hplace (by decide)
  have huser : c ∉ x.userText := by
    unfold userText passwordText
    split_ifs
    · exact List.not_mem_nil
    · split
      next => simp [hx.notMem_username hc, hsign]
      next p hsome =>
        have hpassword : c ∉ p.toList := fun hmem => by
          rw [hx.password p hsome c hmem] at hc
          cases hc
        simp [hx.notMem_username hc, hsign, hcolon, hpassword]
  rw [toList_text, List.mem_append, not_or]
  exact ⟨huser, hx.notMem_place hplace⟩

end IsFormed

end Authority

/-! ### Whole URLs -/

namespace Url

/-- Each part of a URL does not contain the signs that may follow it. Behind an authority the path
is rooted unless it is empty, and without one it does not start like a path that is kept apart from
the scheme. -/
structure IsFormed (u : Url) : Prop where
  scheme : ':' ∉ u.scheme.toList
  authority : ∀ x ∈ u.authority, x.IsFormed (SchemeClass.of u.scheme).isSpecial
  path : '?' ∉ u.path.toList ∧ '#' ∉ u.path.toList
  query : ∀ q ∈ u.query, '#' ∉ q.toList
  rooted : u.authority ≠ none → u.path = "" ∨ u.path.toList.head? = some '/'
  bare : u.authority = none → ¬ ['/', '.', '/'] <+: u.path.toList

variable {u v : Url}

theorem toList_text (u : Url) :
    u.text.toList = u.scheme.toList ++ ':' :: (u.authorityText.toList ++ u.path.toList ++
      (u.queryText.toList ++ u.fragmentText.toList)) := by
  simp [text]

theorem queryText_injective (h : u.queryText = v.queryText) : u.query = v.query := by
  unfold queryText at h
  cases hu : u.query with
  | none => cases hv : v.query <;> simp_all
  | some p =>
    cases hv : v.query with
    | none => simp_all
    | some q =>
      rw [hu, hv, String.append_right_inj] at h
      rw [h]

theorem fragmentText_injective (h : u.fragmentText = v.fragmentText) :
    u.fragment = v.fragment := by
  unfold fragmentText at h
  cases hu : u.fragment with
  | none => cases hv : v.fragment <;> simp_all
  | some p =>
    cases hv : v.fragment with
    | none => simp_all
    | some q =>
      rw [hu, hv, String.append_right_inj] at h
      rw [h]

namespace IsFormed

/-- The query ends at the sign of the fragment. -/
theorem eq_of_tail_eq (hu : u.IsFormed) (hv : v.IsFormed)
    (h : u.queryText.toList ++ u.fragmentText.toList =
      v.queryText.toList ++ v.fragmentText.toList) :
    u.query = v.query ∧ u.fragment = v.fragment := by
  have hquery {u : Url} (hu : u.IsFormed) : ∀ c ∈ u.queryText.toList, (c == '#') = false := by
    intro c hc
    refine beq_false_of_ne fun heq => ?_
    subst heq
    unfold queryText at hc
    split at hc
    next => simp at hc
    next q hsome => simp [hu.query q hsome] at hc
  have hfragment (u : Url) : ∀ c ∈ u.fragmentText.toList.head?, (c == '#') = true := by
    unfold fragmentText
    split <;> simp
  obtain ⟨hqueries, hfragments⟩ :=
    Text.append_inj_of_class (hquery hu) (hquery hv) (hfragment u) (hfragment v) h
  exact ⟨queryText_injective (String.toList_inj.1 hqueries),
    fragmentText_injective (String.toList_inj.1 hfragments)⟩

/-- Without an authority, a path that starts with two slashes is kept apart from the scheme. -/
theorem front_cases (h : u.authority = none) :
    (u.authorityText.toList ++ u.path.toList = '/' :: '.' :: u.path.toList ∧
      ∃ rest, u.path.toList = '/' :: '/' :: rest) ∨
    (u.authorityText.toList ++ u.path.toList = u.path.toList ∧
      ∀ rest, u.path.toList ≠ '/' :: '/' :: rest) := by
  have hstart : "//".isPrefixOf u.path = true ↔ ['/', '/'] <+: u.path.toList :=
    String.startsWith_string_iff
  rw [authorityText, h]
  dsimp only
  split_ifs with hslashes
  · obtain ⟨rest, hrest⟩ := hstart.1 hslashes
    exact .inl ⟨rfl, rest, hrest.symm⟩
  · exact .inr ⟨rfl, fun rest hrest => hslashes (hstart.2 ⟨rest, hrest.symm⟩)⟩

theorem front_ne (hu : u.authority = none) {x : Authority} (hv : v.authority = some x) :
    u.authorityText.toList ++ u.path.toList ≠ v.authorityText.toList ++ v.path.toList := by
  have hfront : v.authorityText.toList ++ v.path.toList =
      '/' :: '/' :: (x.text.toList ++ v.path.toList) := by
    simp [authorityText, hv]
  rw [hfront]
  rcases front_cases hu with ⟨hfront, -⟩ | ⟨hfront, hslashes⟩
  · rw [hfront]
    simp
  · rw [hfront]
    exact hslashes _

theorem path_eq_of_bare (hu : u.IsFormed) (hv : v.IsFormed) (hunone : u.authority = none)
    (hvnone : v.authority = none)
    (h : u.authorityText.toList ++ u.path.toList = v.authorityText.toList ++ v.path.toList) :
    u.path = v.path := by
  have hapart {u v : Url} (hv : v.IsFormed) (hvnone : v.authority = none)
      (hslashes : ∃ rest, u.path.toList = '/' :: '/' :: rest) :
      '/' :: '.' :: u.path.toList ≠ v.path.toList := by
    intro heq
    obtain ⟨rest, hrest⟩ := hslashes
    refine hv.bare hvnone ⟨'/' :: rest, ?_⟩
    rw [← heq, hrest]
    rfl
  rcases front_cases hunone with ⟨hufront, huslashes⟩ | ⟨hufront, -⟩
  · rcases front_cases hvnone with ⟨hvfront, -⟩ | ⟨hvfront, -⟩
    · rw [hufront, hvfront, List.cons.injEq, List.cons.injEq] at h
      exact String.toList_inj.1 h.2.2
    · rw [hufront, hvfront] at h
      exact absurd h (hapart hv hvnone huslashes)
  · rcases front_cases hvnone with ⟨hvfront, hvslashes⟩ | ⟨hvfront, -⟩
    · rw [hufront, hvfront] at h
      exact absurd h.symm (hapart hu hunone hvslashes)
    · rw [hufront, hvfront] at h
      exact String.toList_inj.1 h

/-- The authority ends at the slash of the path. -/
theorem eq_of_front_eq (hu : u.IsFormed) (hv : v.IsFormed) (hscheme : u.scheme = v.scheme)
    (h : u.authorityText.toList ++ u.path.toList = v.authorityText.toList ++ v.path.toList) :
    u.authority = v.authority ∧ u.path = v.path := by
  cases hua : u.authority with
  | none =>
    cases hva : v.authority with
    | none => exact ⟨rfl, path_eq_of_bare hu hv hua hva h⟩
    | some y => exact absurd h (front_ne hua hva)
  | some x =>
    cases hva : v.authority with
    | none => exact absurd h.symm (front_ne hva hua)
    | some y =>
      have hx := hu.authority x hua
      have hy := hv.authority y hva
      rw [← hscheme] at hy
      have hslash {x : Authority} (hx : x.IsFormed (SchemeClass.of u.scheme).isSpecial) :
          ∀ c ∈ x.text.toList, (c == '/') = false := by
        intro c hc
        exact beq_false_of_ne fun heq =>
          hx.notMem_text (by decide) (by decide) (by decide) (heq ▸ hc)
      have hpath {u : Url} (hu : u.IsFormed) (hsome : u.authority ≠ none) :
          ∀ c ∈ u.path.toList.head?, (c == '/') = true := by
        rcases hu.rooted hsome with hempty | hroot
        · simp [hempty]
        · simp [hroot]
      have hfront : x.text.toList ++ u.path.toList = y.text.toList ++ v.path.toList := by
        simpa [authorityText, hua, hva] using h
      obtain ⟨htext, hpaths⟩ := Text.append_inj_of_class (hslash hx) (hslash hy)
        (hpath hu (hua ▸ Option.some_ne_none x)) (hpath hv (hva ▸ Option.some_ne_none y)) hfront
      exact ⟨congrArg some (hx.eq_of_text_eq hy (String.toList_inj.1 htext)),
        String.toList_inj.1 hpaths⟩

theorem notMem_front (hu : u.IsFormed) {c : Char} (hc : c = '?' ∨ c = '#') :
    c ∉ u.authorityText.toList ++ u.path.toList := by
  have hpath : c ∉ u.path.toList := by
    rcases hc with rfl | rfl
    · exact hu.path.1
    · exact hu.path.2
  have hauthority : c ∉ u.authorityText.toList := by
    unfold authorityText
    split
    next x hsome =>
      have htext : c ∉ x.text.toList := by
        rcases hc with rfl | rfl
        · exact (hu.authority x hsome).notMem_text (by decide) (by decide) (by decide)
        · exact (hu.authority x hsome).notMem_text (by decide) (by decide) (by decide)
      rcases hc with rfl | rfl <;> simp [htext]
    next => rcases hc with rfl | rfl <;> split_ifs <;> decide
  rw [List.mem_append, not_or]
  exact ⟨hauthority, hpath⟩

/-- The text of a URL determines the URL. -/
theorem eq_of_text_eq (hu : u.IsFormed) (hv : v.IsFormed) (h : u.text = v.text) : u = v := by
  have htext := congrArg String.toList h
  rw [toList_text, toList_text] at htext
  have hname {u : Url} (hu : u.IsFormed) : ∀ c ∈ u.scheme.toList, (c == ':') = false :=
    fun c hc => beq_false_of_ne fun heq => hu.scheme (heq ▸ hc)
  obtain ⟨hschemes, hrest⟩ :=
    Text.append_inj_of_class (hname hu) (hname hv) (by simp) (by simp) htext
  have hscheme : u.scheme = v.scheme := String.toList_inj.1 hschemes
  have hfront {u : Url} (hu : u.IsFormed) :
      ∀ c ∈ u.authorityText.toList ++ u.path.toList, (c == '?' || c == '#') = false := by
    intro c hc
    rw [Bool.or_eq_false_iff]
    exact ⟨beq_false_of_ne fun heq => hu.notMem_front (.inl heq) hc,
      beq_false_of_ne fun heq => hu.notMem_front (.inr heq) hc⟩
  have htail (u : Url) : ∀ c ∈ (u.queryText.toList ++ u.fragmentText.toList).head?,
      (c == '?' || c == '#') = true := by
    unfold queryText fragmentText
    cases u.query <;> cases u.fragment <;> simp
  obtain ⟨hfronts, htails⟩ := Text.append_inj_of_class (hfront hu) (hfront hv) (htail u) (htail v)
    (List.cons.inj hrest).2
  obtain ⟨hauthority, hpath⟩ := hu.eq_of_front_eq hv hscheme hfronts
  obtain ⟨hquery, hfragment⟩ := hu.eq_of_tail_eq hv htails
  cases u
  cases v
  simp_all

end IsFormed

end Url

/-! ### The URLs that are read -/

namespace Authority

open Percent (IsEncoded inUserinfo)

theorem isEncoded_readUser (cs : List Char) :
    IsEncoded inUserinfo (readUser cs).1.toList ∧
      ∀ p ∈ (readUser cs).2, IsEncoded inUserinfo p.toList := by
  have hwritten (cs : List Char) :
      IsEncoded inUserinfo (String.ofList (Percent.encode inUserinfo cs)).toList := by
    rw [String.toList_ofList]
    exact Percent.isEncoded_encode isKept_inUserinfo cs
  unfold readUser
  dsimp only
  split
  next => exact ⟨hwritten _, nofun⟩
  next => exact ⟨hwritten _, nofun⟩
  next => exact ⟨hwritten _, fun p hp => Option.some.inj hp ▸ hwritten _⟩

theorem isFormed_of_read {scheme : String} {special : Bool} {cs rest : List Char} {x : Authority}
    (h : read scheme special cs = .ok (x, rest)) : x.IsFormed special := by
  obtain ⟨userText, -, -, -, huser, -⟩ := exists_of_read h
  have hencoded := isEncoded_readUser userText
  rw [huser] at hencoded
  exact ⟨hencoded.1, hencoded.2, (isRead_of_read h).host⟩

end Authority

namespace Path

/-- A path without dot segments does not start with one. -/
theorem not_bare_normalize (backslash : Bool) (cs : List Char) :
    ¬ ['/', '.', '/'] <+: normalize backslash cs := by
  rintro ⟨rest, hrest⟩
  have hplaced : ∀ segment ∈
      place false [] ((segments backslash cs).map (Percent.encode Percent.inPath)),
      '/' ∉ segment ∧ isSingleDot segment = false := by
    refine forall_mem_place ⟨List.not_mem_nil, rfl⟩ (fun hfile => Bool.noConfusion hfile)
      (List.forall_mem_nil _) fun segment hsegment hsingle => ⟨fun hslash => ?_, hsingle⟩
    obtain ⟨piece, hpiece, rfl⟩ := List.mem_map.1 hsegment
    exact Text.notMem_of_mem_splitOn hpiece
      (Percent.mem_of_mem_encode ⟨by decide, by decide⟩ hslash)
  rw [normalize, List.cons_append, List.cons.injEq] at hrest
  generalize place false [] ((segments backslash cs).map (Percent.encode Percent.inPath)) = placed
    at hplaced hrest
  have hne : placed ≠ [] := by
    rintro rfl
    cases hrest.2
  have hpieces := Text.splitOn_joinWith hne fun segment hsegment => (hplaced segment hsegment).1
  rw [← hrest.2] at hpieces
  have hcut : Text.splitOn '/' (['.'] ++ '/' :: rest) = ['.'] :: Text.splitOn '/' rest :=
    Text.splitOn_append (by decide) rest
  -- the dot in front of the second slash is a segment of its own
  have hdot : ['.'] ∈ placed := hpieces.symm.trans hcut ▸ List.mem_cons_self
  exact absurd (hplaced _ hdot).2 (by decide)

end Path

namespace Url

variable {scheme : String} {u v : Url}

theorem notMem_of_cutScheme? {cs rest : List Char} (h : cutScheme? cs = some (scheme, rest)) :
    ':' ∉ scheme.toList := by
  unfold cutScheme? at h
  split at h
  next c name rest hcut =>
    split_ifs at h
    cases h
    rw [String.toList_ofList]
    exact mt (Text.mem_of_mem_toLower (by decide)) (Text.cutFirst_eq_some_iff.1 hcut).2
  next => cases h

/-- A URL whose parts are encoded is of the form if its scheme and its authority are. -/
theorem HasEncodedParts.isFormed (h : u.HasEncodedParts) (hscheme : ':' ∉ u.scheme.toList)
    (hauthority : ∀ x ∈ u.authority, x.IsFormed (SchemeClass.of u.scheme).isSpecial)
    (hbare : u.authority = none → ¬ ['/', '.', '/'] <+: u.path.toList) : u.IsFormed where
  scheme := hscheme
  authority := hauthority
  path := ⟨fun hmem => absurd (h.path _ hmem) (by decide),
    fun hmem => absurd (h.path _ hmem) (by decide)⟩
  query q hq hmem := absurd (h.query q hq _ hmem) (by decide)
  rooted _ := h.rooted
  bare := hbare

theorem isFormed_of_parseSpecial {cs : List Char} (hscheme : ':' ∉ scheme.toList)
    (hclass : SchemeClass.of scheme = .special) (h : parseSpecial scheme cs = .ok u) :
    u.IsFormed := by
  obtain ⟨⟨x, rest⟩, hread, rfl⟩ := exists_of_map_eq_ok h
  refine (hasEncodedParts_normalize _ _).isFormed hscheme (fun y hy => ?_) nofun
  obtain rfl : x = y := Option.some.inj hy
  exact hclass ▸ Authority.isFormed_of_read hread

/-- The authority of a file has a host that has been read, or none. -/
theorem isFormed_fileAuthority {host : Option Host} (hhost : ∀ h ∈ host, h.IsRead true) :
    (fileAuthority host).IsFormed true where
  username := Percent.isEncoded_nil _
  password := nofun
  host h hh := by
    unfold fileAuthority at hh
    dsimp only at hh
    split_ifs at hh
    · cases hh
    · exact hhost h hh

theorem isFormed_onHost (host : Option Host) (hhost : ∀ h ∈ host, h.IsRead true)
    (path tail : List Char) :
    (assemble "file" true (some (fileAuthority host)) (Path.normalizeFile path) tail).IsFormed := by
  refine (hasEncodedParts_normalizeFile path).isFormed (by decide : ':' ∉ "file".toList)
    (fun x hx => ?_) nofun
  obtain rfl : fileAuthority host = x := Option.some.inj hx
  exact isFormed_fileAuthority hhost

theorem isFormed_of_parseFile {cs : List Char} (h : parseFile cs = .ok u) : u.IsFormed := by
  obtain ⟨host, path, tail, rfl, hhost⟩ := exists_of_parseFile h
  refine isFormed_onHost host (fun x hx => ?_) path tail
  obtain ⟨text, hread⟩ := hhost x hx
  exact Host.isRead_of_parseSpecial hread

/-- A path that is no sequence of segments ends at the signs of the query and the fragment. -/
theorem isFormed_opaque {cs : List Char} (hscheme : ':' ∉ scheme.toList)
    (hcs : cs.head? ≠ some '/') :
    (assemble scheme false none (Percent.encode Percent.inControls (cutPath cs).1)
      (cutPath cs).2).IsFormed where
  scheme := hscheme
  authority := nofun
  path := by
    have hend {c : Char} (hend : (c != '?' && c != '#') = false)
        (hkept : Percent.IsKept (· == c)) :
        c ∉ Percent.encode Percent.inControls (cutPath cs).1 := fun hmem => by
      have hpath := List.mem_takeWhile_imp (Percent.mem_of_mem_encode hkept hmem)
      rw [hend] at hpath
      cases hpath
    rw [assemble, String.toList_ofList]
    exact ⟨hend (by decide) ⟨by decide, by decide⟩, hend (by decide) ⟨by decide, by decide⟩⟩
  query q hq hmem := absurd (isEncoded_readTail hq _ hmem) (by decide)
  rooted hne := absurd rfl hne
  bare _ hstart := by
    rw [assemble, String.toList_ofList] at hstart
    obtain ⟨rest, hrest⟩ := hstart
    exact not_isRooted_encode hcs (hrest ▸ rfl)

theorem isFormed_of_parseGeneral {cs : List Char} (hscheme : ':' ∉ scheme.toList)
    (hclass : SchemeClass.of scheme = .general) (h : parseGeneral scheme cs = .ok u) :
    u.IsFormed := by
  unfold parseGeneral at h
  split at h
  next =>
    obtain ⟨⟨x, rest⟩, hread, rfl⟩ := exists_of_map_eq_ok h
    refine (hasEncodedParts_generalPath _).isFormed hscheme (fun y hy => ?_) nofun
    obtain rfl : x = y := Option.some.inj hy
    exact hclass ▸ Authority.isFormed_of_read hread
  next =>
    cases h
    refine (hasEncodedParts_normalize _ _).isFormed hscheme
      (fun x hx => absurd hx (Option.not_mem_none x)) fun _ => ?_
    rw [assemble, String.toList_ofList]
    exact Path.not_bare_normalize _ _
  next hdouble hsingle =>
    cases h
    refine isFormed_opaque hscheme fun hcs => ?_
    obtain ⟨rest, rfl⟩ := List.head?_eq_some_iff.1 hcs
    exact hsingle rest rfl

/-- The URLs that are read are of the form. -/
theorem isFormed_of_parse {s : String} (h : parse s = .ok u) : u.IsFormed := by
  unfold parse at h
  split at h
  next => cases h
  next hcut =>
    have hscheme := notMem_of_cutScheme? hcut
    split at h
    next hclass => exact isFormed_of_parseSpecial hscheme hclass h
    next => exact isFormed_of_parseFile h
    next hclass => exact isFormed_of_parseGeneral hscheme hclass h

/-- URLs that have been read are the same if their texts are. -/
theorem eq_of_text_eq {s t : String} (hu : parse s = .ok u) (hv : parse t = .ok v)
    (h : u.text = v.text) : u = v :=
  (isFormed_of_parse hu).eq_of_text_eq (isFormed_of_parse hv) h

end Url

end Gatehouse
