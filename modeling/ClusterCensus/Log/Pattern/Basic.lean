import ClusterCensus.Text.Basic

/-!
# Parts of a pattern

What the parts of a pattern share: the mode in which a part is read, and the characters that stand
for others after a backslash. A pattern is a regular expression over the text of a field. It may
only name characters one by one, by ranges or by the classes of ASCII: nothing in it may need a
table of letters, such as the other case of a letter, the digits of all scripts or the limits of a
word. Only with the `u` mode off are these taken from ASCII, and then nothing may match a part of a
character beyond it.
-/

namespace ClusterCensus.Log.Pattern

/-- How a part of a pattern is read: whether letters also stand for their other case, whether
characters beyond ASCII count, and whether blanks and comments do not. -/
structure Mode where
  anyCase : Bool
  beyondAscii : Bool
  spaced : Bool
deriving DecidableEq, Repr

namespace Mode

/-- The mode at the beginning of a pattern. -/
def initial : Mode := ⟨false, true, false⟩

/-- Drops blanks and comments. A comment goes on to the end of its line. -/
def dropBlanks (inComment : Bool) : List Char → List Char
  | [] => []
  | c :: rest =>
    if inComment then dropBlanks (c ≠ '\n') rest
    else if Text.isBlank c then dropBlanks false rest
    else if c = '#' then dropBlanks true rest
    else c :: rest

/-- Drops what does not count. -/
def skip (m : Mode) (cs : List Char) : List Char := if m.spaced then dropBlanks false cs else cs

/-- The next character, which is only looked at: the first mark of a comment is passed over like a
blank. -/
def glance (m : Mode) (cs : List Char) : Option Char :=
  if m.spaced then
    let ahead := match cs.dropWhile Text.isBlank with
      | '#' :: rest => rest.dropWhile Text.isBlank
      | rest => rest
    (ahead ++ cs).head?
  else cs.head?

/-- Whether a table of letters is needed to read a letter. -/
def needsCases (m : Mode) : Bool := m.anyCase && m.beyondAscii

end Mode

/-- What a backslash may begin: a character, which may be written as a byte; a place in the text,
which may be the limit of a word; or a class of characters, which may be turned round. -/
inductive Escape where
  | char (c : Char) (byte : Bool)
  | place (ofWord : Bool)
  | group (negated : Bool)
deriving DecidableEq, Repr

namespace Escape

/-- The value of a hexadecimal digit. -/
def hexDigit? (c : Char) : Option Nat :=
  if c.isDigit then some (c.toNat - '0'.toNat)
  else if 'a' ≤ c && c ≤ 'f' then some (c.toNat - 'a'.toNat + 10)
  else if 'A' ≤ c && c ≤ 'F' then some (c.toNat - 'A'.toNat + 10)
  else none

/-- A number of hexadecimal digits, after those that make up a value, and what follows them. -/
def readHex? (m : Mode) : Nat → Nat → List Char → Option (Nat × List Char)
  | 0, value, cs => some (value, cs)
  | count + 1, value, cs =>
    match m.skip cs with
    | c :: rest => (hexDigit? c).bind fun d => readHex? m count (16 * value + d) rest
    | [] => none

/-- A character given by its number in a number of hexadecimal digits. -/
def numbered? (m : Mode) (count : Nat) (cs : List Char) : Option (Escape × List Char) :=
  match readHex? m count 0 cs with
  | some (code, rest) =>
    if code.isValidChar then some (.char (.ofNat code) (count = 2), rest) else none
  | none => none

/-- The characters that letters stand for. -/
def named : List (Char × Char) :=
  [('a', '\x07'), ('f', '\x0c'), ('t', '\t'), ('n', '\n'), ('r', '\r'), ('v', '\x0b')]

/-- What follows a backslash. A character that means something else without the backslash is meant
itself, and so is every other sign of ASCII. -/
def read? (m : Mode) : List Char → Option (Escape × List Char)
  | [] => none
  | 'x' :: rest => numbered? m 2 rest
  | 'u' :: rest => numbered? m 4 rest
  | 'U' :: rest => numbered? m 8 rest
  | c :: rest =>
    if c ∈ ['d', 's', 'w'] then some (.group false, rest)
    else if c ∈ ['D', 'S', 'W'] then some (.group true, rest)
    else if c ∈ ['A', 'z'] then some (.place false, rest)
    else if c ∈ ['b', 'B', '<', '>'] then some (.place true, rest)
    else
      match named.lookup c with
      | some d => some (.char d false, rest)
      | none => if c.isAlphanum || 0x80 ≤ c.toNat then none else some (.char c false, rest)

/-- Whether an escape can be read in a mode, outside of brackets. -/
def isPlain (m : Mode) : Escape → Bool
  | .char c byte => !m.needsCases && (m.beyondAscii || !byte || c.toNat < 0x80)
  | .place ofWord => !ofWord || !m.beyondAscii
  | .group negated => !m.beyondAscii && !negated

end Escape

end ClusterCensus.Log.Pattern
