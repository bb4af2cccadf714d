import ClusterCensus.Log.Pattern.Brackets
import ClusterCensus.Text.Letter
import ClusterCensus.Text.Numeral

/-!
# Patterns of log filters

Not every text is a pattern. The value that a filter gives for a field is a pattern unless it is a
number. A pattern stands between braces and holds no closing brace, so that nothing that would need
one can be written in it, such as a counted repetition.
-/

namespace ClusterCensus.Log.Pattern

/-- A group that is being read: the mode outside of it, the depths of the parts of its last
alternative, the last one first, and those of the alternatives before it. A setting of the mode is a
part without a depth. -/
structure Group where
  outside : Mode
  parts : List (Option Nat)
  alternatives : List Nat
deriving DecidableEq, Repr

namespace Group

/-- A group of which only the beginning has been read. -/
def opened (outside : Mode) : Group := ⟨outside, [], []⟩

/-- A part more. -/
def add (g : Group) (part : Option Nat) : Group := { g with parts := part :: g.parts }

/-- The depth of the last alternative. -/
def lastDepth (g : Group) : Nat := depthOfRow (g.parts.map (·.getD 0))

/-- The depth of what has been read. -/
def depth (g : Group) : Nat := depthOfRow (g.lastDepth :: g.alternatives)

/-- The beginning of another alternative. -/
def alternate (g : Group) : Group :=
  { g with parts := [], alternatives := g.lastDepth :: g.alternatives }

/-- The repetition of the last part. A setting cannot be repeated. -/
def repeat? (g : Group) : Option Group :=
  match g.parts with
  | some d :: parts => some { g with parts := some (1 + d) :: parts }
  | _ => none

end Group

/-- A pattern that is being read: its mode, the groups that are open, the innermost first, and the
names that were given to groups. -/
structure Reading where
  mode : Mode
  group : Group
  outer : List Group
  names : List (List Char)
deriving DecidableEq, Repr

namespace Reading

/-- A pattern of which nothing has been read. -/
def initial : Reading := ⟨.initial, .opened .initial, [], []⟩

/-- A part more. -/
def add (r : Reading) (part : Option Nat) : Reading := { r with group := r.group.add part }

/-- The beginning of a group with a mode of its own. -/
def openGroup (r : Reading) (mode : Mode) : Reading :=
  { r with mode, group := .opened r.mode, outer := r.group :: r.outer }

/-- The end of the innermost group. -/
def closeGroup? (r : Reading) : Option Reading :=
  match r.outer with
  | [] => none
  | g :: outer =>
    some { r with mode := r.group.outside, group := g.add (some (1 + r.group.depth)), outer }

/-- Whether a text can be the name of a group. -/
def isName : List Char → Bool
  | [] => false
  | c :: rest =>
    (c = '_' || Text.isLetter c) &&
      rest.all fun c => c ∈ ['_', '.', '[', ']'] || Text.isLetter c || Text.isNumeral c

/-- The beginning of a group with a name, from its name on. No two groups have the same name. -/
def openNamed? (r : Reading) (cs : List Char) : Option (Reading × List Char) :=
  let name := cs.takeWhile (· ≠ '>')
  match cs.drop name.length with
  | '>' :: rest =>
    if isName name && name ∉ r.names then
      some ({ r.openGroup r.mode with names := name :: r.names }, rest)
    else none
  | _ => none

/-- The letters of settings: any case, several lines, dots for line breaks, greed turned round,
characters beyond ASCII, line ends of two characters, blanks that do not count. -/
def settingLetters : List Char := ['i', 'm', 's', 'U', 'u', 'R', 'x']

/-- Whether letters are settings: none twice, and those after a hyphen, of which there is at least
one, are turned off. -/
def areSettings (cs : List Char) : Bool :=
  cs.all (fun c => c = '-' || c ∈ settingLetters) && cs.Nodup && cs.getLast? ≠ some '-'

/-- A mode after settings. -/
def change (m : Mode) (cs : List Char) : Mode :=
  let on := cs.takeWhile (· ≠ '-')
  let off := cs.drop on.length
  let value := fun c was => (was || c ∈ on) && c ∉ off
  ⟨value 'i' m.anyCase, value 'u' m.beyondAscii, value 'x' m.spaced⟩

/-- Settings, for the rest of the group they stand in or for a group that begins with them. -/
def set? (r : Reading) (cs : List Char) : Option (Reading × List Char) :=
  let letters := cs.takeWhile fun c => c ≠ ':' && c ≠ ')'
  let mode := change r.mode letters
  if areSettings letters then
    match cs.drop letters.length with
    | ':' :: rest => some (r.openGroup mode, rest)
    | ')' :: rest => if letters = [] then none else some ({ r.add none with mode }, rest)
    | _ => none
  else none

/-- What follows an opening parenthesis: a group, or settings. It cannot ask for what stands around.
-/
def parenthesis? (r : Reading) (cs : List Char) : Option (Reading × List Char) :=
  match r.mode.skip cs with
  | '?' :: '<' :: '=' :: _ => none
  | '?' :: '<' :: '!' :: _ => none
  | '?' :: 'P' :: '<' :: rest => r.openNamed? rest
  | '?' :: '<' :: rest => r.openNamed? rest
  | '?' :: rest => r.set? rest
  | rest => some (r.openGroup r.mode, rest)

/-- A repetition, with or without a question mark behind it. -/
def repeat? (r : Reading) (cs : List Char) : Option (Reading × List Char) :=
  r.group.repeat?.map fun group =>
    ({ r with group }, match cs with
      | '?' :: rest => rest
      | cs => cs)

/-- The next part of a pattern, which begins with a character, and what follows it. -/
def part? (r : Reading) (c : Char) (cs : List Char) : Option (Reading × List Char) :=
  match c with
  | '(' => r.parenthesis? cs
  | ')' => r.closeGroup?.map fun r => (r, cs)
  | '|' => some ({ r with group := r.group.alternate }, cs)
  | '[' =>
    match (Brackets.open? r.mode cs).bind
        (Brackets.read? r.mode (cs.length + 1) .opened []) with
    | some (depth, rest) => some (r.add (some depth), rest)
    | none => none
  | '?' | '*' | '+' => r.repeat? cs
  | '\x7b' => none
  | '\\' =>
    match Escape.read? r.mode cs with
    | some (e, rest) => if e.isPlain r.mode then some (r.add (some 0), rest) else none
    | none => none
  | '^' | '$' => some (r.add (some 0), cs)
  | '.' => if r.mode.beyondAscii then some (r.add (some 0), cs) else none
  | _ => if r.mode.needsCases then none else some (r.add (some 0), cs)

/-- How deep a pattern may be built. -/
def maxDepth : Nat := 250

/-- Reads a pattern to its end. -/
def isCompleted : Nat → Reading → List Char → Bool
  | 0, _, _ => false
  | fuel + 1, r, cs =>
    match r.mode.skip cs with
    | [] => r.outer = [] && r.group.depth ≤ maxDepth
    | c :: rest =>
      match r.part? c rest with
      | some (r, rest) => isCompleted fuel r rest
      | none => false

end Reading

/-- Whether a text is a pattern. -/
def isPattern (cs : List Char) : Bool := Reading.initial.isCompleted (cs.length + 1) cs

/-- Whether a text is digits, with or without a point, and then perhaps a power of ten. -/
def isDecimal (cs : List Char) : Bool :=
  let whole := cs.takeWhile Char.isDigit
  let rest := cs.drop whole.length
  let (places, rest) := match rest with
    | '.' :: rest => (rest.takeWhile Char.isDigit, rest.dropWhile Char.isDigit)
    | rest => ([], rest)
  let power := match rest with
    | [] => true
    | e :: rest =>
      let digits := match rest with
        | '+' :: rest => rest
        | '-' :: rest => rest
        | rest => rest
      e.toLower = 'e' && digits ≠ [] && digits.all Char.isDigit
  (whole ≠ [] || places ≠ []) && power

/-- Whether a text is a number with a plus in front, which as a pattern would repeat nothing. -/
def isPlusNumber (cs : List Char) : Bool :=
  match cs with
  | '+' :: rest =>
    isDecimal rest || (String.ofList rest).toLower ∈ ["inf", "infinity", "nan"]
  | _ => false

/-- Whether a text can be given as the value of a field. -/
def isValue (cs : List Char) : Bool := isPlusNumber cs || isPattern cs

end ClusterCensus.Log.Pattern
