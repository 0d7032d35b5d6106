import Gatehouse.Url.Host

/-!
# Reading URLs

A text is freed of surrounding blanks and of tabs and line ends, and then taken apart from the
left: scheme, authority, path, query, fragment. Every part is brought into its final form on the
way.

## Main definitions

* `Url.cleaned` : the characters that count.
* `Path.normalize` : a path without dot segments.
* `Url.parse` : the URL that a text denotes.
-/

namespace Gatehouse

/-! ### Paths -/

namespace Path

/-- The encoded spellings of a point. -/
def isDot (cs : List Char) : Bool :=
  cs == ['.'] || Text.eqIgnoreCase cs ['%', '2', 'e']

/-- Whether a segment is a single dot. -/
def isSingleDot (segment : List Char) : Bool := isDot segment

/-- Whether a segment is two dots. -/
def isDoubleDot (segment : List Char) : Bool :=
  match segment with
  | '.' :: rest => isDot rest
  | '%' :: x :: y :: rest => isDot ['%', x, y] && isDot rest
  | _ => false

/-- Whether a segment is a letter followed by a colon. -/
def isDriveLetter (segment : List Char) : Bool :=
  match segment with
  | [c, ':'] => c.isAlpha
  | _ => false

/-- A drive letter written with a bar gets its colon. -/
def withColon (segment : List Char) : List Char :=
  match segment with
  | [c, '|'] => if c.isAlpha then [c, ':'] else segment
  | _ => segment

/-- Takes the last segment away; the drive letter of a file stays. -/
def shorten (file : Bool) (done : List (List Char)) : List (List Char) :=
  match done with
  | [] => []
  | [d] => if file && isDriveLetter d then [d] else []
  | _ :: rest => rest

/-- Appends segments to those in `done`, which is reversed: a single dot adds nothing, two dots
take the last segment away, and either at the end leaves the path with a slash at its end. -/
def place (file : Bool) (done : List (List Char)) : List (List Char) → List (List Char)
  | [] => done.reverse
  | segment :: rest =>
    if isDoubleDot segment then
      let shorter := shorten file done
      place file (if rest = [] then [] :: shorter else shorter) rest
    else if isSingleDot segment then
      place file (if rest = [] then [] :: done else done) rest
    else
      let segment := if file && done == [] then withColon segment else segment
      place file (segment :: done) rest

/-- The segments of a path text; a backslash separates them as well if `backslash` says so. -/
def segments (backslash : Bool) (cs : List Char) : List (List Char) :=
  Text.splitOn '/' (if backslash then cs.map fun c => if c = '\\' then '/' else c else cs)

/-- The path with the given text behind its first slash, encoded and without dot segments. -/
def normalize (backslash : Bool) (cs : List Char) : List Char :=
  '/' :: Text.joinWith ['/']
    (place false [] ((segments backslash cs).map (Percent.encode Percent.inPath)))

/-- The path of a file; it starts with a single slash. -/
def normalizeFile (cs : List Char) : List Char :=
  let segments := (segments true cs).dropWhile (· == [])
  let path := Text.joinWith ['/']
    (place true [] (segments.map (Percent.encode Percent.inPath)))
  '/' :: path.dropWhile (· == '/')

end Path

/-! ### Authorities -/

namespace Authority

/-- Whether a character ends the authority. -/
def isEnd (special : Bool) (c : Char) : Bool :=
  c == '/' || c == '?' || c == '#' || (special && c == '\\')

/-- Cuts a text in front of the first colon that stands outside of brackets. -/
def cutHost (inside : Bool) : List Char → List Char × List Char
  | [] => ([], [])
  | c :: rest =>
    if c = ':' ∧ inside = false then ([], c :: rest)
    else
      let inside := if c = '[' then true else if c = ']' then false else inside
      let (host, after) := cutHost inside rest
      (c :: host, after)

/-- The port in the text behind a host, and what stands behind a backslash in it. -/
def readPort (scheme : String) (cs : List Char) :
    Except UrlError (Option Nat × List Char) :=
  match cs with
  | ':' :: rest =>
    let digits := rest.takeWhile fun c => c != '\\'
    let after := rest.dropWhile fun c => c != '\\'
    if digits = [] then .ok (none, after)
    else
      match (if digits.all (fun c => (Numeral.digit? c).isSome)
          then Numeral.readPort digits else .error .invalidDigit) with
      | .ok p => .ok (if some p = defaultPort? scheme then none else some p, after)
      | .error _ => .error .invalidPort
  | cs => .ok (none, cs)

/-- The encoded user name and password in the text in front of an at sign. -/
def readUser (cs : List Char) : String × Option String :=
  let written (cs : List Char) := String.ofList (Percent.encode Percent.inUserinfo cs)
  match Text.cutFirst ':' cs with
  | none => (written cs, none)
  | some (name, []) => (written name, none)
  | some (name, password) => (written name, some (written password))

/-- The host of a scheme of either class; only a general one may have the empty host. -/
def readHost (special : Bool) (cs : List Char) : Except UrlError (Option Host) :=
  if special then
    if cs = [] then .error .emptyHost else (Host.parseSpecial cs).map some
  else Host.parseGeneral cs

/-- The authority in the text behind two slashes, and the text behind it. -/
def read (scheme : String) (special : Bool) (cs : List Char) :
    Except UrlError (Authority × List Char) :=
  let region := cs.takeWhile fun c => !isEnd special c
  let rest := cs.dropWhile fun c => !isEnd special c
  let (user, place) := match Text.cutLast '@' region with
    | some (user, place) => (some user, place)
    | none => (none, region)
  if user = some [] ∧ place = [] ∧ rest ≠ [] then .error .emptyHost
  else
    let (hostText, portText) := cutHost false place
    let (username, password) := readUser (user.getD [])
    match readHost special hostText with
    | .error e => .error e
    | .ok host =>
      if host = none ∧ portText ≠ [] then .error .emptyHost
      else
        match readPort scheme portText with
        | .error e => .error e
        | .ok (port, after) =>
          if host = none ∧ (username ≠ "" ∨ password ≠ none) then .error .emptyHost
          else .ok (⟨username, password, host, port⟩, after ++ rest)

end Authority

/-! ### Whole URLs -/

namespace Url

/-- Controls and the space. -/
def isBlank (c : Char) : Bool := c.toNat ≤ 0x20

/-- The text without blanks around it and without tabs and line ends. -/
def cleaned (cs : List Char) : List Char :=
  (Text.trim isBlank cs).filter fun c => c != '\t' && c != '\n' && c != '\r'

/-- Whether a character may follow the first letter of a scheme. -/
def isSchemeChar (c : Char) : Bool :=
  c.isAlphanum || c == '+' || c == '-' || c == '.'

/-- The scheme in lower case, and the text behind its colon. -/
def cutScheme? (cs : List Char) : Option (String × List Char) :=
  match Text.cutFirst ':' cs with
  | some (c :: name, rest) =>
    if c.isAlpha && name.all isSchemeChar then
      some (String.ofList (Text.toLower (c :: name)), rest)
    else none
  | _ => none

/-- Cuts a text in front of its query or fragment. -/
def cutPath (cs : List Char) : List Char × List Char :=
  (cs.takeWhile fun c => c != '?' && c != '#', cs.dropWhile fun c => c != '?' && c != '#')

/-- The encoded query and fragment in the text behind a path. -/
def readTail (special : Bool) (cs : List Char) : Option String × Option String :=
  let written (inSet : Char → Bool) (cs : List Char) := String.ofList (Percent.encode inSet cs)
  let querySet := if special then Percent.inSpecialQuery else Percent.inQuery
  match cs with
  | '?' :: rest =>
    match Text.cutFirst '#' rest with
    | some (query, fragment) =>
      (some (written querySet query), some (written Percent.inFragment fragment))
    | none => (some (written querySet rest), none)
  | '#' :: rest => (none, some (written Percent.inFragment rest))
  | _ => (none, none)

/-- A URL with the given path and the query and fragment that `tail` starts with. -/
def assemble (scheme : String) (special : Bool) (authority : Option Authority)
    (path tail : List Char) : Url :=
  let (query, fragment) := readTail special tail
  { scheme, authority, path := String.ofList path, query, fragment }

/-- Whether a character is a slash of either direction. -/
def isSlash (c : Char) : Bool := c == '/' || c == '\\'

/-- The URL of a special scheme with the given text behind its colon. -/
def parseSpecial (scheme : String) (cs : List Char) : Except UrlError Url :=
  (Authority.read scheme true (cs.dropWhile isSlash)).map fun (authority, rest) =>
    let (path, tail) := cutPath rest
    assemble scheme true (some authority) (Path.normalize true (path.drop 1)) tail

/-- The path of a general scheme behind an authority: empty, or starting with a slash. -/
def generalPath (cs : List Char) : List Char :=
  match cs with
  | [] => []
  | '/' :: rest => Path.normalize false rest
  | cs => Path.normalize false cs

/-- The URL of a general scheme with the given text behind its colon. -/
def parseGeneral (scheme : String) (cs : List Char) : Except UrlError Url :=
  match cs with
  | '/' :: '/' :: rest =>
    (Authority.read scheme false rest).map fun (authority, rest) =>
      let (path, tail) := cutPath rest
      assemble scheme false (some authority) (generalPath path) tail
  | '/' :: rest =>
    let (path, tail) := cutPath rest
    .ok (assemble scheme false none (Path.normalize false path) tail)
  | cs =>
    let (path, tail) := cutPath cs
    .ok (assemble scheme false none (Percent.encode Percent.inControls path) tail)

/-- The authority of a file on the given host; `localhost` and drive letters are no hosts. -/
def fileAuthority (host : Option Host) : Authority :=
  ⟨"", none, if host = some (.name "localhost") then none else host, none⟩

/-- The URL of a file with the given text behind its colon. -/
def parseFile (cs : List Char) : Except UrlError Url :=
  let (path, tail) := cutPath cs
  let onHost (host : Option Host) (path : List Char) : Url :=
    assemble "file" true (some (fileAuthority host)) (Path.normalizeFile path) tail
  match path with
  | a :: b :: rest =>
    if isSlash a && isSlash b then
      let hostText := rest.takeWhile fun c => !isSlash c
      let after := rest.dropWhile fun c => !isSlash c
      if hostText = [] then .ok (onHost none after)
      else if Path.isDriveLetter (Path.withColon hostText) then .ok (onHost none rest)
      else
        (Host.parseSpecial hostText).map fun host =>
          let drive := match (Path.segments true after).dropWhile (· == []) with
            | segment :: _ => Path.isDriveLetter (Path.withColon segment)
            | [] => false
          onHost (if drive then none else some host) after
    else .ok (onHost none path)
  | path => .ok (onHost none path)

/-- The URL that a text denotes. -/
def parse (s : String) : Except UrlError Url :=
  match cutScheme? (cleaned s.toList) with
  | none => .error .relativeWithoutBase
  | some (scheme, rest) =>
    match SchemeClass.of scheme with
    | .special => parseSpecial scheme rest
    | .file => parseFile rest
    | .general => parseGeneral scheme rest

end Url

end Gatehouse
