import ClusterCensus.Json.Value
import ClusterCensus.SortedMap

/-!
# Reading a value

Reading a value from its text. A whole number that fits 64 bits, signed or unsigned, stays whole;
any other number is rounded to a binary floating-point number. Of two members with one name the
later one stays.
-/

namespace ClusterCensus.Json

/-- What is still to be read. -/
abbrev Rest := List Char

/-- Skips blanks. -/
def skipBlanks : Rest → Rest
  | c :: rest => if c = ' ' ∨ c = '\n' ∨ c = '\t' ∨ c = '\r' then skipBlanks rest else c :: rest
  | [] => []

/-- Reads decimal digits, adding them to a number, and counts them. It stops in front of a digit
that would take the number beyond 64 bits. -/
def readDigits : Nat → Nat → Rest → Nat × Nat × Rest
  | n, count, c :: rest =>
    let next := n * 10 + (c.toNat - '0'.toNat)
    if c.isDigit ∧ next < UInt64.size then readDigits next (count + 1) rest
    else (n, count, c :: rest)
  | n, count, [] => (n, count, [])

/-- Skips decimal digits and counts them. -/
def skipDigits : Nat → Rest → Nat × Rest
  | count, c :: rest => if c.isDigit then skipDigits (count + 1) rest else (count, c :: rest)
  | count, [] => (count, [])

/-- The number that decimal digits make when added to another, whatever its size. -/
def readPower : Nat → Rest → Nat × Rest
  | n, c :: rest =>
    if c.isDigit then readPower (n * 10 + (c.toNat - '0'.toNat)) rest else (n, c :: rest)
  | n, [] => (n, [])

/-- The value of a hexadecimal digit. -/
def hexValue? (c : Char) : Option Nat :=
  if c.isDigit then some (c.toNat - '0'.toNat)
  else if 'a' ≤ c ∧ c ≤ 'f' then some (c.toNat - 'a'.toNat + 10)
  else if 'A' ≤ c ∧ c ≤ 'F' then some (c.toNat - 'A'.toNat + 10)
  else none

/-- The number that four hexadecimal digits give. -/
def hexQuad? (a b c d : Char) : Option Nat := do
  let a ← hexValue? a
  let b ← hexValue? b
  let c ← hexValue? c
  let d ← hexValue? d
  pure (((a * 16 + b) * 16 + c) * 16 + d)

/-- The character that stands after a backslash as itself or by a letter. -/
def plainEscape? : Char → Option Char
  | '"' => some '"'
  | '\\' => some '\\'
  | '/' => some '/'
  | 'b' => some (Char.ofNat 8)
  | 'f' => some (Char.ofNat 12)
  | 'n' => some '\n'
  | 'r' => some '\r'
  | 't' => some '\t'
  | _ => none

/-- Reads the inside of a text and its closing quote; the characters are collected in reverse. A
character beyond the first plane is written by a pair of numbers. -/
def readText : List Char → Rest → Option (String × Rest)
  | acc, '"' :: rest => some (String.ofList acc.reverse, rest)
  | acc, '\\' :: 'u' :: a :: b :: c :: d :: '\\' :: 'u' :: e :: f :: g :: h :: rest => do
    let high ← hexQuad? a b c d
    if 0xd800 ≤ high ∧ high < 0xdc00 then
      let low ← hexQuad? e f g h
      if 0xdc00 ≤ low ∧ low < 0xe000 then
        readText (Char.ofNat (0x10000 + (high - 0xd800) * 0x400 + (low - 0xdc00)) :: acc) rest
      else none
    else if 0xdc00 ≤ high ∧ high < 0xe000 then none
    else readText (Char.ofNat high :: acc) ('\\' :: 'u' :: e :: f :: g :: h :: rest)
  | acc, '\\' :: 'u' :: a :: b :: c :: d :: rest => do
    let n ← hexQuad? a b c d
    if 0xd800 ≤ n ∧ n < 0xe000 then none else readText (Char.ofNat n :: acc) rest
  | acc, '\\' :: e :: rest => do
    let c ← plainEscape? e
    readText (c :: acc) rest
  | acc, c :: rest => if c.toNat < 0x20 then none else readText (c :: acc) rest
  | _, [] => none
termination_by _ rest => rest.length

/-- A number from its sign, its digits and the power of ten they are scaled by. -/
def number? (negative whole : Bool) (digits : Nat) (power : Int) : Option Json :=
  if whole ∧ ¬ negative ∧ digits < UInt64.size then some (.integer digits)
  else if whole ∧ negative ∧ digits ≠ 0 ∧ digits ≤ Int64.minValue.toInt.natAbs then
    some (.integer (-digits))
  else (Binary64.ofDecimal? negative digits power).map .float

/-- Reads the exponent of a number, if there is one. -/
def readExponent : Rest → Option (Option Int × Rest)
  | c :: rest =>
    if c = 'e' ∨ c = 'E' then
      let (negative, digits) := match rest with
        | '-' :: r => (true, r)
        | '+' :: r => (false, r)
        | r => (false, r)
      if digits.head?.any Char.isDigit then
        let (n, rest) := readPower 0 digits
        some (some (if negative then -(n : Int) else n), rest)
      else none
    else some (none, c :: rest)
  | [] => some (none, [])

/-- Reads a number. A leading zero stands alone. Digits count as long as the number they make,
without the point, fits 64 bits; the digits dropped in front of the point still scale it. -/
def readNumber (text : Rest) : Option (Json × Rest) := do
  let (negative, text) := match text with
    | '-' :: r => (true, r)
    | r => (false, r)
  let (n, count, rest) := readDigits 0 0 text
  if count = 0 ∨ (count > 1 ∧ text.head? = some '0') then none
  else
    let (dropped, rest) := skipDigits 0 rest
    let (digits, places, pointed, rest) ← match rest with
      | '.' :: r =>
        if r.head?.any Char.isDigit then
          let (m, k, r) := readDigits n 0 r
          some (m, k, true, (skipDigits 0 r).2)
        else none
      | r => some (n, 0, false, r)
    let (exponent, rest) ← readExponent rest
    let whole := !pointed && dropped = 0 && exponent.isNone
    let value ← number? negative whole digits (exponent.getD 0 + dropped - places)
    pure (value, rest)

mutual

/-- Reads a value; every nested value costs one unit of fuel. -/
def readValue : Nat → Rest → Option (Json × Rest)
  | 0, _ => none
  | fuel + 1, text =>
    match skipBlanks text with
    | 'n' :: 'u' :: 'l' :: 'l' :: rest => some (.null, rest)
    | 't' :: 'r' :: 'u' :: 'e' :: rest => some (.bool true, rest)
    | 'f' :: 'a' :: 'l' :: 's' :: 'e' :: rest => some (.bool false, rest)
    | '"' :: rest => (readText [] rest).map fun (s, rest) => (.string s, rest)
    | '[' :: rest =>
      match skipBlanks rest with
      | ']' :: rest => some (.array [], rest)
      | rest => (readItems fuel [] rest).map fun (items, rest) => (.array items, rest)
    | '\x7b' :: rest =>
      match skipBlanks rest with
      | '\x7d' :: rest => some (.object [], rest)
      | rest => (readMembers fuel [] rest).map fun (members, rest) => (.object members, rest)
    | rest => readNumber rest

/-- Reads the items of an array and its closing bracket; they are collected in reverse. -/
def readItems : Nat → List Json → Rest → Option (List Json × Rest)
  | 0, _, _ => none
  | fuel + 1, acc, text =>
    match readValue fuel text with
    | none => none
    | some (v, rest) =>
      match skipBlanks rest with
      | ',' :: rest => readItems fuel (v :: acc) rest
      | ']' :: rest => some ((v :: acc).reverse, rest)
      | _ => none

/-- Reads the members of an object and its closing brace, keeping them in order of name. -/
def readMembers : Nat → List (String × Json) → Rest → Option (List (String × Json) × Rest)
  | 0, _, _ => none
  | fuel + 1, acc, text =>
    match skipBlanks text with
    | '"' :: rest =>
      match readText [] rest with
      | none => none
      | some (name, rest) =>
        match skipBlanks rest with
        | ':' :: rest =>
          match readValue fuel rest with
          | none => none
          | some (v, rest) =>
            let acc := SortedMap.insertEntry name v acc
            match skipBlanks rest with
            | ',' :: rest => readMembers fuel acc rest
            | '\x7d' :: rest => some (acc, rest)
            | _ => none
        | _ => none
    | _ => none

end

/-- Reads a whole text as one value. Each value takes at least one character, so the length of the
text is fuel enough. -/
def parse (text : String) : Option Json :=
  let cs := text.toList
  match readValue (cs.length + 1) cs with
  | some (v, rest) => if skipBlanks rest = [] then some v else none
  | none => none

end ClusterCensus.Json
