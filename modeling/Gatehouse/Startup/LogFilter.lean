import Gatehouse.Text.Numeral
import Gatehouse.Text.Split

/-!
# Which log lines are shown

A filter is a list of directives with commas between them: a level, a component with a level, or a
component alone, of which everything is shown. A directive may also name a span of work in
brackets. For a line of some component the most specific directive decides, the one that names the
longest beginning of the component's name.

## Main definitions

* `LogLevel`, `LogLine` : what is logged.
* `LogDirective.parse` : the directive that a text denotes, or why it denotes none.
* `LogFilter.strict?`, `LogFilter.lenient` : the filter of a text, and the filter of what can be
  read of a text.
* `LogFilter.shows` : whether a line is shown.
-/

namespace Gatehouse

/-- How important a log line is. -/
inductive LogLevel where
  | error
  | warn
  | info
  | debug
  | trace
  deriving DecidableEq, Repr

namespace LogLevel

/-- The name of a level. -/
def name : LogLevel → String
  | .error => "ERROR"
  | .warn => "WARN"
  | .info => "INFO"
  | .debug => "DEBUG"
  | .trace => "TRACE"

/-- How many levels are shown when this is the last of them. -/
def rank : LogLevel → Nat
  | .error => 1
  | .warn => 2
  | .info => 3
  | .debug => 4
  | .trace => 5

end LogLevel

/-- A log line. -/
structure LogLine where
  level : LogLevel
  /-- The component that logs it. -/
  component : String
  message : String
  deriving DecidableEq, Repr

/-- Which lines of some components are shown. -/
structure LogDirective where
  /-- The beginning of the names of the components. -/
  component : String
  /-- How many levels are shown, the most important first. -/
  levels : Nat
  /-- Whether only lines within some span of work are meant. Starting the router is none. -/
  inSpan : Bool
  deriving DecidableEq, Repr

namespace LogDirective

/-- Why a text is no directive. -/
inductive Fault where
  | malformed
  /-- What follows the equals sign is no level. -/
  | unknownLevel
  deriving DecidableEq, Repr

/-- The wording of a fault. -/
def Fault.message : Fault → String
  | .malformed => "invalid filter directive"
  | .unknownLevel =>
    "error parsing level filter: expected one of \"off\", \"error\", \"warn\", " ++
      "\"info\", \"debug\", \"trace\", or a number 0-5"

/-! ### Words -/

/-- How many levels are shown when nothing tells their number. -/
def allLevels : Nat := LogLevel.trace.rank

/-- How many levels a word shows: the name of a level or their number. -/
def levels? (cs : List Char) : Option Nat :=
  match Numeral.readWord cs with
  | .ok n => if n ≤ allLevels then some n else none
  | .error _ =>
    ["off", "error", "warn", "info", "debug", "trace"].findIdx? fun w =>
      Text.eqIgnoreCase w.toList cs

/-- Whether a character is blank. -/
def isBlank (c : Char) : Bool :=
  [0x20, 0x85, 0xA0, 0x1680, 0x2028, 0x2029, 0x202F, 0x205F, 0x3000].contains c.toNat ||
    (0x09 ≤ c.toNat && c.toNat ≤ 0x0D) || (0x2000 ≤ c.toNat && c.toNat ≤ 0x200A)

/-- Whether a directive may begin with a character, a bracket apart. -/
def isFirstChar (c : Char) : Bool :=
  c.isAlphanum || "_:-".toList.contains c || 0x80 ≤ c.toNat

/-- Whether a character belongs to the first word of a directive. -/
def isWordChar (c : Char) : Bool := c != '=' && c != '['

/-! ### Directives -/

/-- What follows a span, the bracket in front of its name having been read. Braces within the
brackets hold the fields that the span must have, at least one. -/
def skipSpan (cs : List Char) : Option (List Char) :=
  match cs.dropWhile fun c => c != ']' && c != '\x7b' with
  | ']' :: rest => some rest
  | '\x7b' :: fields =>
    match fields.takeWhile (· != '\x7d'), fields.dropWhile (· != '\x7d') with
    | _ :: _, '\x7d' :: ']' :: rest => some rest
    | _, _ => none
  | _ => none

/-- The directive of a name and the text behind the equals sign. Without such a text everything
is shown. -/
def withLevel (component level : List Char) (inSpan : Bool) : Except Fault LogDirective :=
  if level = [] then .ok ⟨String.ofList component, allLevels, inSpan⟩
  else
    match levels? level with
    | some n => .ok ⟨String.ofList component, n, inSpan⟩
    | none => .error .unknownLevel

/-- The directive that a text denotes. The signs are looked for in the text without the blanks
around it, and the text with them is cut at the places found. -/
def parse (cs : List Char) : Except Fault LogDirective :=
  let bare := Text.trim isBlank cs
  let name := bare.takeWhile isWordChar
  if bare.head?.any isFirstChar ∨ bare.head? = some '[' then
    match bare.dropWhile isWordChar with
    | '=' :: _ => withLevel (cs.take name.length) (cs.drop (name.length + 1)) false
    | '[' :: span =>
      match skipSpan span with
      | some [] => .ok ⟨String.ofList (cs.take name.length), allLevels, true⟩
      | some ('=' :: level) =>
        withLevel (cs.take name.length) (cs.drop (bare.length - level.length)) true
      | _ => .error .malformed
    | _ =>
      match levels? cs with
      | some n => .ok ⟨"", n, false⟩
      | none => .ok ⟨String.ofList cs, allLevels, false⟩
  else .error .malformed

end LogDirective

/-- A list of directives. -/
abbrev LogFilter := List LogDirective

namespace LogFilter

/-- The parts of a text between commas, without the empty ones. -/
def parts (text : String) : List (List Char) :=
  (Text.splitOn ',' text.toList).filter (· ≠ [])

/-- The filter of a text that consists of directives. Without any, nothing is shown. -/
def strict? (text : String) : Option LogFilter :=
  (parts text).mapM fun cs => (LogDirective.parse cs).toOption

/-- The filter of those parts of a text that are directives. Without any, errors are shown. -/
def lenient (text : String) : LogFilter :=
  match (parts text).filterMap fun cs => (LogDirective.parse cs).toOption with
  | [] => [⟨"", LogLevel.error.rank, false⟩]
  | directives => directives

/-- The parts of a text that are no directives, with the reasons. -/
def ignored (text : String) : List (String × LogDirective.Fault) :=
  (parts text).filterMap fun cs =>
    match LogDirective.parse cs with
    | .ok _ => none
    | .error fault => some (String.ofList cs, fault)

/-- The directive that decides about a component: the most specific one, and of several equally
specific ones the last. -/
def deciding (f : LogFilter) (component : String) : Option LogDirective :=
  (f.filter fun d => !d.inSpan && d.component.isPrefixOf component).foldl
    (fun best d =>
      match best with
      | some b => if b.component.length ≤ d.component.length then some d else some b
      | none => some d) none

/-- Whether a line is shown. -/
def shows (f : LogFilter) (line : LogLine) : Bool :=
  (f.deciding line.component).any fun d => line.level.rank ≤ d.levels

end LogFilter

end Gatehouse
