import ClusterCensus.Json.Value

/-!
# The compact text of a value

The compact text of a value has no blanks, and members and characters beyond ASCII stand as they
are. A quote, a backslash and the characters below the space are written with a backslash.
-/

namespace ClusterCensus.Json

/-- Two hexadecimal digits. -/
def hexPair (n : Nat) : List Char :=
  [Nat.digitChar (n / 16), Nat.digitChar (n % 16)]

/-- One character inside a text. -/
def escapeChar (c : Char) : List Char :=
  if c = '"' then ['\\', '"']
  else if c = '\\' then ['\\', '\\']
  else if c = '\n' then ['\\', 'n']
  else if c = '\r' then ['\\', 'r']
  else if c = '\t' then ['\\', 't']
  else if c.toNat = 8 then ['\\', 'b']
  else if c.toNat = 12 then ['\\', 'f']
  else if c.toNat < 0x20 then ['\\', 'u', '0', '0'] ++ hexPair c.toNat
  else [c]

/-- A text between quotes. -/
def textOf (s : String) : String :=
  String.ofList ('"' :: s.toList.flatMap escapeChar ++ ['"'])

mutual

/-- The compact text of a value. -/
def compact : Json → String
  | .null => "null"
  | .bool true => "true"
  | .bool false => "false"
  | .integer n => toString n
  | .float x => x.recordText
  | .string s => textOf s
  | .array items => "[" ++ compactItems items ++ "]"
  | .object members => "\x7b" ++ compactMembers members ++ "\x7d"

/-- The items of an array, with commas between. -/
def compactItems : List Json → String
  | [] => ""
  | [v] => compact v
  | v :: rest => compact v ++ "," ++ compactItems rest

/-- The members of an object, with commas between. -/
def compactMembers : List (String × Json) → String
  | [] => ""
  | [(name, v)] => textOf name ++ ":" ++ compact v
  | (name, v) :: rest => textOf name ++ ":" ++ compact v ++ "," ++ compactMembers rest

end

end ClusterCensus.Json
