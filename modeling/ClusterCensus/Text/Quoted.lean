import ClusterCensus.Text.Extending
import ClusterCensus.Text.Invisible

/-!
# Quoted texts

Texts as they are quoted in messages: between double quotes, with a backslash form for the
characters that could not be told apart otherwise.
-/

namespace ClusterCensus.Text

/-- The lower-case hexadecimal digits of a number, without leading zeros. -/
def hexDigits (n : Nat) : List Char :=
  Nat.toDigits 16 n

/-- One character inside a quoted text. -/
def quoteChar (c : Char) : List Char :=
  if c = '"' then ['\\', '"']
  else if c = '\\' then ['\\', '\\']
  else if c = '\n' then ['\\', 'n']
  else if c = '\t' then ['\\', 't']
  else if c = '\r' then ['\\', 'r']
  else if c = Char.ofNat 0 then ['\\', '0']
  else if 0x20 ≤ c.toNat && c.toNat < 0x7f then [c]
  else if isExtending c || isInvisible c then
    ['\\', 'u', '\x7b'] ++ hexDigits c.toNat ++ ['\x7d']
  else [c]

/-- A text between double quotes. -/
def quoted (s : String) : String :=
  String.ofList ('"' :: s.toList.flatMap quoteChar ++ ['"'])

/-- Texts in brackets, each quoted, with a comma between. -/
def quotedList (texts : List String) : String :=
  "[" ++ String.intercalate ", " (texts.map quoted) ++ "]"

end ClusterCensus.Text
