import ClusterCensus.Log.Pattern.Basic

/-!
# Sets of characters in brackets

Sets of characters in brackets: characters, ranges, the classes of ASCII and sets in turn, also
combined by intersection, difference and symmetric difference. How deep a set is built counts
towards the depth of its pattern.
-/

namespace ClusterCensus.Log.Pattern

/-- How deep a row of parts is built, where a single part counts as itself. -/
def depthOfRow : List Nat → Nat
  | [] => 0
  | [d] => d
  | ds => 1 + ds.foldl max 0

/-- A set that is being read: the depth of what stands before the last operator, those of its
members since then, and whether it has only just begun. -/
structure Brackets where
  left : Option Nat
  members : List Nat
  fresh : Bool
deriving DecidableEq, Repr

namespace Brackets

/-- A set of which only the opening bracket has been read. -/
def opened : Brackets := ⟨none, [], true⟩

/-- The depth of what has been read. -/
def depth (b : Brackets) : Nat :=
  match b.left with
  | none => depthOfRow b.members
  | some d => 1 + max d (depthOfRow b.members)

/-- A member more. -/
def add (b : Brackets) (depth : Nat) : Brackets := { b with members := depth :: b.members }

/-- An operator after what has been read. -/
def operate (b : Brackets) : Brackets := ⟨some b.depth, [], false⟩

/-- What may stand at the beginning of a set that is to be turned round, which would take in
characters beyond ASCII. -/
def open? (m : Mode) (cs : List Char) : Option (List Char) :=
  match m.skip cs with
  | '^' :: rest => if m.beyondAscii then some rest else none
  | rest => some rest

/-- The names of the classes of ASCII. -/
def classNames : List String :=
  ["alnum", "alpha", "ascii", "blank", "cntrl", "digit", "graph", "lower", "print", "punct",
    "space", "upper", "word", "xdigit"]

/-- A class of ASCII behind its opening bracket: whether it is turned round, and what follows it. -/
def class? (cs : List Char) : Option (Bool × List Char) :=
  match cs with
  | ':' :: rest =>
    let (negated, rest) := match rest with
      | '^' :: rest => (true, rest)
      | rest => (false, rest)
    let name := rest.takeWhile (· ≠ ':')
    match rest.drop name.length with
    | ':' :: ']' :: rest => if String.ofList name ∈ classNames then some (negated, rest) else none
    | _ => none
  | _ => none

/-- Whether a character can be a member of a set. -/
def admits (m : Mode) (c : Char) : Bool := !m.needsCases && (m.beyondAscii || c.toNat < 0x80)

/-- A single member: a character, or none for a class of characters. -/
def single? (m : Mode) : List Char → Option (Option Char × List Char)
  | '\\' :: rest =>
    match Escape.read? m rest with
    | some (.char c _, rest) => if admits m c then some (some c, rest) else none
    | some (.group negated, rest) =>
      if (Escape.group negated).isPlain m then some (none, rest) else none
    | _ => none
  | c :: rest => if admits m c then some (some c, rest) else none
  | [] => none

/-- A member, which may be a range, and what follows it. A hyphen before the closing bracket or
another hyphen makes no range. -/
def member? (m : Mode) (cs : List Char) : Option (List Char) := do
  let (low, rest) ← single? m cs
  match m.skip rest with
  | [] => none
  | '-' :: more =>
    if m.glance more ∈ [some ']', some '-'] then pure ('-' :: more)
    else
      let (high, rest) ← single? m (m.skip more)
      match low, high with
      | some low, some high => if low ≤ high then pure rest else none
      | _, _ => none
  | rest => pure rest

/-- The depth of a set and what follows it, from behind its opening bracket on. At its beginning
hyphens stand for themselves, and so does a closing bracket. -/
def read? (m : Mode) : Nat → Brackets → List Brackets → List Char → Option (Nat × List Char)
  | 0, _, _, _ => none
  | fuel + 1, b, outer, cs =>
    let go := read? m fuel
    let set := { b with fresh := false }
    match m.skip cs with
    | [] => none
    | c :: rest =>
      if b.fresh && c = '-' then if admits m c then go (b.add 0) outer rest else none
      else if b.fresh && b.members = [] && c = ']' then
        if admits m c then go (set.add 0) outer rest else none
      else
        match c, rest with
        | '[', _ =>
          match class? rest with
          | some (negated, rest) =>
            if m.needsCases || (negated && !m.beyondAscii) then none
            else go (set.add 0) outer rest
          | none => (open? m rest).bind (go opened (set :: outer))
        | ']', _ =>
          match outer with
          | [] => some (1 + set.depth, rest)
          | b :: outer => go (b.add (1 + set.depth)) outer rest
        | '&', '&' :: rest => go set.operate outer rest
        | '-', '-' :: rest => go set.operate outer rest
        | '~', '~' :: rest => go set.operate outer rest
        | _, _ => (member? m (c :: rest)).bind (go (set.add 0) outer)

end Brackets

end ClusterCensus.Log.Pattern
