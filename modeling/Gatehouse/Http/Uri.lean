import Gatehouse.Text.Split

/-!
# Request targets

A request names what it asks for by a path with a query, by an absolute text with scheme and
authority, by an authority alone, or by an asterisk. The parts are kept as they are written; a
fragment is dropped.

## Main definitions

* `Uri` : a request target in its parts.
* `Uri.parse?` : the target that a text denotes.
* `UriFault`, `Uri.fault` : what is wrong with a text that denotes none.
* `Uri.path`, `Uri.pathAndQuery?` : what the target asks for.
* `Uri.text` : the target as it is written.
-/

namespace Gatehouse

/-- A request target. -/
structure Uri where
  /-- The scheme, if the target is absolute. -/
  scheme : Option String
  /-- The authority, empty if there is none. -/
  authority : String
  /-- What stands in front of the query, as it is written. -/
  pathText : String
  query : Option String
  deriving DecidableEq, Repr

/-- What may be wrong with a text that denotes no target. -/
inductive UriFault where
  | empty
  | tooLong
  | character
  | schemeTooLong
  | authority
  /-- The parts do not fit together. -/
  | format
  deriving DecidableEq, Repr

/-- The wording of a fault. -/
def UriFault.message : UriFault → String
  | .empty => "empty string"
  | .tooLong => "uri too long"
  | .character => "invalid uri character"
  | .schemeTooLong => "scheme too long"
  | .authority => "invalid authority"
  | .format => "invalid format"

namespace Uri

/-! ### Parts -/

/-- Whether there is neither a path nor a query. -/
def isBare (u : Uri) : Bool := u.pathText == "" && u.query.isNone

/-- The path. An empty path stands for a slash, unless the target is an authority alone. -/
def path (u : Uri) : String :=
  if u.pathText ≠ "" then u.pathText
  else if u.isBare && u.scheme.isNone then ""
  else "/"

/-- The path and the query as they are written, or a slash if there is neither. An authority
alone has no such text. -/
def pathAndQuery? (u : Uri) : Option String :=
  if u.scheme.isSome ∨ u.authority = "" then
    some (match u.query with
      | some q => u.pathText ++ "?" ++ q
      | none => if u.pathText = "" then "/" else u.pathText)
  else none

/-- The target as it is written. -/
def text (u : Uri) : String :=
  (match u.scheme with
    | some s => s ++ "://"
    | none => "") ++ u.authority ++ u.path ++
  (match u.query with
    | some q => "?" ++ q
    | none => "")

/-! ### Reading -/

/-- The length up to which a text is accepted. -/
def maxLength : Nat := 65534

/-- The length up to which a scheme is accepted. -/
def maxSchemeLength : Nat := 64

/-- Whether a character may stand in a path. -/
def isPathChar (c : Char) : Bool :=
  0x21 ≤ c.toNat && c.toNat ≤ 0x7E && !"#<>?`".toList.contains c

/-- Whether a character may stand in a query. -/
def isQueryChar (c : Char) : Bool :=
  0x21 ≤ c.toNat && c.toNat ≤ 0x7E && !"\"#<>".toList.contains c

/-- Whether a character may stand in a scheme. -/
def isSchemeChar (c : Char) : Bool := c.isAlphanum || "+-.".toList.contains c

/-- Whether a character without a meaning of its own may stand in an authority. -/
def isAuthorityChar (c : Char) : Bool := c.isAlphanum || "!$&'()*+,;=-._~".toList.contains c

/-- Whether a character ends an authority. -/
def endsAuthority (c : Char) : Bool := "/?#".toList.contains c

/-- What has been seen of an authority since the last sign that separates its parts. -/
structure AuthorityScan where
  /-- The colons since the user information or a bracketed address. -/
  colons : Nat
  opened : Bool
  closed : Bool
  /-- Whether there was a percent sign. -/
  percent : Bool

/-- The next character of an authority. -/
def AuthorityScan.step (s : AuthorityScan) (c : Char) : Option AuthorityScan :=
  if c = ':' then if s.colons < 8 then some { s with colons := s.colons + 1 } else none
  else if c = '[' then if s.percent ∨ s.opened then none else some { s with opened := true }
  else if c = ']' then
    if s.opened = false ∨ s.closed then none
    else some { s with closed := true, colons := 0, percent := false }
  else if c = '@' then some { s with colons := 0, percent := false }
  else if c = '%' then some { s with percent := true }
  else if isAuthorityChar c then some s
  else none

/-- Whether a text is an authority: brackets come in one pair, a single colon may be left for the
port, percent signs stand in the user information or in brackets, and a host follows the at
sign. -/
def isAuthority (cs : List Char) : Bool :=
  match cs.foldlM AuthorityScan.step ⟨0, false, false, false⟩ with
  | none => false
  | some s => s.opened == s.closed && s.colons ≤ 1 && !s.percent && cs.getLast? != some '@'

/-- The target of a scheme, an authority and the text behind them, whose fragment is dropped. -/
def readPath (scheme : Option String) (authority : String) (cs : List Char) : Option Uri :=
  let visible := cs.takeWhile (· != '#')
  match Text.cutFirst '?' visible with
  | none =>
    if visible.all isPathChar then some ⟨scheme, authority, String.ofList visible, none⟩ else none
  | some (path, query) =>
    if path.all isPathChar && query.all isQueryChar then
      some ⟨scheme, authority, String.ofList path, some (String.ofList query)⟩
    else none

/-- The scheme in front of `://`, and what follows. Without such a scheme nothing is taken. The
two web schemes are put in lower case. -/
def readScheme (cs : List Char) : Option (Option String × List Char) :=
  match cs.dropWhile isSchemeChar with
  | ':' :: '/' :: '/' :: rest =>
    let name := cs.takeWhile isSchemeChar
    if Text.eqIgnoreCase name "http".toList ∨ Text.eqIgnoreCase name "https".toList then
      some (some (String.ofList (Text.toLower name)), rest)
    else if maxSchemeLength < name.length then none
    else some (some (String.ofList name), rest)
  | _ => some (none, cs)

/-- Reads a target that does not start with a slash: a scheme with an authority and a path, or an
authority alone. -/
def readFull (cs : List Char) : Option Uri :=
  match readScheme cs with
  | none => none
  | some (scheme, rest) =>
    let authority := rest.takeWhile fun c => !endsAuthority c
    let behind := rest.dropWhile fun c => !endsAuthority c
    if !isAuthority authority then none
    else if scheme.isNone then
      if behind = [] then some ⟨none, String.ofList authority, "", none⟩ else none
    else if authority = [] then none
    else readPath scheme (String.ofList authority) behind

/-- The target that a text denotes. -/
def parse? (text : String) : Option Uri :=
  let cs := text.toList
  if maxLength < cs.length then none
  else
    match cs with
    | [] => none
    | ['*'] => some ⟨none, "", "*", none⟩
    | '/' :: _ => readPath none "" cs
    | _ => readFull cs

/-! ### Faults -/

/-- What is wrong with a text that is no authority: the first character that cannot stand where it
does, or the text as a whole. -/
def authorityFault (s : AuthorityScan) : List Char → UriFault
  | [] => .authority
  | c :: cs =>
    match s.step c with
    | some s => authorityFault s cs
    | none => if ":[]".toList.contains c then .authority else .character

/-- What is wrong with a text that denotes no target. -/
def fault (text : String) : UriFault :=
  let cs := text.toList
  if maxLength < cs.length then .tooLong
  else
    match cs with
    | [] => .empty
    | '/' :: _ => .character
    | [c] => if endsAuthority c then .character else authorityFault ⟨0, false, false, false⟩ [c]
    | _ =>
      match readScheme cs with
      | none => .schemeTooLong
      | some (scheme, rest) =>
        let authority := rest.takeWhile fun c => !endsAuthority c
        if !isAuthority authority then authorityFault ⟨0, false, false, false⟩ authority
        else if scheme.isNone ∨ authority = [] then .format
        else .character

end Uri

end Gatehouse
