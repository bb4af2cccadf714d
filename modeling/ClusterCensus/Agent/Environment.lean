import ClusterCensus.Text.Basic

/-!
# The environment

The environment of the agent is made of named variables, some of which are settings. A variable is a
setting if its name begins with `agent_`, in any case; the rest of the name is the path of what it
sets. A path is a key, followed by the names of members after a point and by places in brackets, so
that `agent_limits.cpu[0]` sets the first place of the member `cpu` of `limits`. A name that is not
written as a path sets nothing that the agent knows.
-/

namespace ClusterCensus

/-- The variables of an environment; of two with one name the later one counts. -/
abbrev Environment := List (String × String)

/-- The two kinds of values that have parts. -/
inductive Compound where
  | map
  | sequence
deriving DecidableEq, Repr

/-- The name of a kind of values. -/
def Compound.name : Compound → String
  | map => "map"
  | sequence => "sequence"

/-- What a key of the configuration is set to: a text, or a value with parts where only a part of
it was set. -/
inductive Setting where
  | text (value : String)
  | compound (kind : Compound)
deriving DecidableEq, Repr

namespace Setting

/-- The characters of a key and of the name of a member. -/
def isKeyChar (c : Char) : Bool := c.isAlphanum || c = '_' || c = '-' || c = ' '

/-- Whether a text is a key. -/
def isKey (cs : List Char) : Bool := cs ≠ [] && cs.all isKeyChar

/-- The blanks that may stand inside brackets. -/
def isBlank (c : Char) : Bool := c = ' ' || c = '\t'

/-- What stands between an opening bracket and the next one: a place, which may be counted from the
end, and the closing bracket. -/
def place? (cs : List Char) : Option Int :=
  let cs := cs.dropWhile isBlank
  let (negative, cs) := match cs with
    | '-' :: rest => (true, rest)
    | cs => (false, cs)
  let ds := cs.takeWhile Char.isDigit
  let place : Int := if negative then -Natural.digitsValue ds else Natural.digitsValue ds
  if ds ≠ [] && Int64.minValue.toInt ≤ place && place ≤ Int64.maxValue.toInt &&
      (cs.dropWhile Char.isDigit).dropWhile isBlank = [']'] then some place
  else none

end Setting

/-- Why a value cannot be put at a place of a list that is still empty: no place can be counted
from its end, or there is no room for so many. -/
inductive PlaceFault where
  | beforeStart
  | noRoom
deriving DecidableEq, Repr

namespace PlaceFault

/-- The text of a fault. -/
def message : PlaceFault → String
  | beforeStart => "attempt to subtract with overflow"
  | noRoom => "capacity overflow"

/-- The number of places for which there is room: what is addressable, in units of 96 bytes. -/
def room : Nat := Int64.maxValue.toInt.toNat / 96

/-- The fault of a place, if it has one. -/
def ofPlace? (place : Int) : Option PlaceFault :=
  if place < 0 then some .beforeStart else if place < room then none else some .noRoom

end PlaceFault

namespace Setting

/-- A part of a path between points: a name and the places that follow it. -/
structure Segment where
  name : String
  places : List Int
deriving DecidableEq, Repr

/-- The part of a path that a text without points is. -/
def Segment.ofText? (cs : List Char) : Option Segment :=
  match Text.pieces '[' cs with
  | name :: places =>
    if isKey name then (places.mapM place?).map fun ps => ⟨String.ofList name, ps⟩ else none
  | [] => none

/-- A path: its first part, whose name is the key, and the others. -/
structure Path where
  head : Segment
  tail : List Segment
deriving DecidableEq, Repr

namespace Path

/-- The path that a text is. -/
def ofText? (cs : List Char) : Option Path :=
  match (Text.pieces '.' cs).mapM Segment.ofText? with
  | some (head :: tail) => some ⟨head, tail⟩
  | _ => none

/-- The kind of value that the key must have for the rest of the path. -/
def compound? (p : Path) : Option Compound :=
  if p.head.places ≠ [] then some .sequence else if p.tail ≠ [] then some .map else none

/-- What the key is set to if a value is put at the end of the path. -/
def setting (p : Path) (value : String) : Setting := p.compound?.elim (.text value) .compound

/-- The first fault of a place along the path. -/
def fault? (p : Path) : Option PlaceFault :=
  ((p.head :: p.tail).flatMap (·.places)).findSome? PlaceFault.ofPlace?

end Path

/-- A character in its lower case; beyond ASCII only the one that becomes an ASCII letter. -/
def lowerChar (c : Char) : Char := if c.toNat = 0x212a then 'k' else c.toLower

/-- What the name of a setting begins with. -/
def lead : List Char := "agent_".toList

/-- The path that the name of a variable gives, if the variable is a setting. -/
def path? (name : String) : Option Path :=
  let cs := name.toList.map lowerChar
  if lead.isPrefixOf cs then Path.ofText? (cs.drop lead.length) else none

end Setting

namespace Environment

/-- The value of a variable, whose name is to be met exactly. -/
def get? (env : Environment) (name : String) : Option String :=
  (env.reverse.find? fun v => v.1 = name).map (·.2)

/-- The paths that are set in an environment and their values, the last one first. -/
def paths (env : Environment) : List (Setting.Path × String) :=
  env.reverse.filterMap fun v => (Setting.path? v.1).map fun p => (p, v.2)

/-- What a key of the configuration is set to. -/
def setting? (env : Environment) (key : String) : Option Setting :=
  (env.paths.find? fun s => s.1.head.name = key).map fun s => s.1.setting s.2

/-- Why a setting cannot be put where it belongs. -/
def fault? (env : Environment) : Option PlaceFault := env.paths.findSome? (·.1.fault?)

end Environment

end ClusterCensus
