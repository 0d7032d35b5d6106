import Gatehouse.Text.Quoted.Table
import Gatehouse.Text.Normalization

/-!
# Quoted text

A text is quoted for people to read: between double quotes, with quotes and backslashes escaped,
and with everything that would not be visible written as its code point.

## Main definitions

* `Quoted.isHidden` : the characters that are not shown as they are.
* `Quoted.text` : the quoted form of a text.
-/

namespace Gatehouse.Quoted

/-- The runs of characters beyond ASCII that are not shown. -/
def hiddenRuns : List Normalization.Run :=
  (Normalization.rowsOf hiddenRows).map Normalization.Run.ofField

/-- Whether a character is not shown as it is. -/
def isHidden (c : Char) : Bool :=
  c.toNat < 0x20 || (0x7F ≤ c.toNat && hiddenRuns.any (·.has c))

/-- One character in quoted form. -/
def quoteChar (c : Char) : List Char :=
  if c = '"' then ['\\', '"']
  else if c = '\\' then ['\\', '\\']
  else if c = '\n' then ['\\', 'n']
  else if c = '\r' then ['\\', 'r']
  else if c = '\t' then ['\\', 't']
  else if c.toNat = 0 then ['\\', '0']
  else if isHidden c then ['\\', 'u', '\x7b'] ++ Numeral.hexDigits c.toNat ++ ['\x7d']
  else [c]

/-- The quoted form of a text. -/
def text (s : String) : String :=
  String.ofList ('"' :: s.toList.flatMap quoteChar ++ ['"'])

end Gatehouse.Quoted
