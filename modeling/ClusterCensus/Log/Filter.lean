import ClusterCensus.Log
import ClusterCensus.Log.Pattern
import ClusterCensus.Text.Basic

/-!
# Log filters

A log filter says which records are written. It is a list of directives with commas between, such as
`info,agent_lib=warn`. A directive gives the least important level that is still written, and may
limit itself to the records of some origins, by the beginning of their name, or to records with
certain fields. Of the directives about a record the most specific one decides, and where none is
about it, it is not written. Among equally specific ones the last counts.
-/

namespace ClusterCensus.Log

/-- One rule of a filter: the rank up to which it writes the records that it is about. -/
structure Directive where
  target : Option String
  fields : List String
  rank : Nat
deriving DecidableEq, Repr

namespace Directive

/-- The directive about all records. -/
def all (rank : Nat) : Directive := ⟨none, [], rank⟩

/-- Whether a directive is about a record. The message is a field too. -/
def concerns (d : Directive) (r : Record) : Bool :=
  d.target.all (·.toList.isPrefixOf r.origin.name.toList) &&
    d.fields.all fun f => f = "message" || r.hasField f

/-- How much a directive says about where a record comes from. -/
def reach (d : Directive) : Nat := d.target.elim 0 (·.utf8ByteSize + 1)

/-- Whether a directive decides before another one, if both are about a record: it has the longer
target, or else more fields, or else fields that are later in the alphabet. -/
def precedes (d e : Directive) : Bool :=
  e.reach < d.reach ||
    (e.reach = d.reach && (e.fields.length < d.fields.length ||
      (e.fields.length = d.fields.length && decide (e.fields < d.fields))))

/-! The text of a directive. -/

/-- The names of ranks, each at its place. -/
def rankNames : List String := ["off", "error", "warn", "info", "debug", "trace"]

/-- A rank by its name in any case, or by its number. -/
def rank? (cs : List Char) : Option Nat :=
  let word := (String.ofList cs).toLower
  match Natural.read? cs with
  | some n => if n < rankNames.length then some n else none
  | none => if word ∈ rankNames then some (rankNames.idxOf word) else none

/-- The rank that writes everything, which holds where a directive gives none. -/
def fullRank : Nat := Level.trace.rank

/-- The rank after an equals sign. -/
def givenRank? (cs : List Char) : Option Nat := if cs = [] then some fullRank else rank? cs

/-- The characters that a directive may begin with, brackets apart. -/
def isOpening (c : Char) : Bool :=
  c ∈ ['-', ':', '_'] || Text.isLetter c || Text.isNumeral c

/-- What a directive says: a rule about records, or something about spans or the values of fields,
of which no record has any. -/
inductive Statement where
  | about (d : Directive)
  | dynamic
deriving DecidableEq, Repr

/-- What follows the brackets of a directive: nothing, or its rank. Here and below the places are
found in the trimmed text, and what stands there is taken from the text as it is. -/
def close? (trimmed text : List Char) (place : Nat) : Option Nat :=
  match trimmed.drop place with
  | [] => some fullRank
  | '=' :: _ => givenRank? (text.drop (place + 1))
  | _ => none

/-- What stands between braces: the name of a field, perhaps with an equals sign and a value. -/
def field? (cs : List Char) : Option (String × Bool) :=
  match Text.pieces '=' cs with
  | name :: value :: _ =>
    if Pattern.isValue value then some (String.ofList name, true) else none
  | _ => if cs = [] then none else some (String.ofList cs, false)

/-- A directive with brackets, from behind the opening one: the name of a span, the name of a field
in braces, or both. -/
def bracketed? (trimmed text : List Char) (target : Option String) (place : Nat) :
    Option Statement :=
  let span := (trimmed.drop place).takeWhile fun c => c ≠ ']' && c ≠ '\x7b'
  let after := place + span.length
  match trimmed.drop after with
  | ']' :: _ => (close? trimmed text (after + 1)).map fun _ => .dynamic
  | '\x7b' :: rest =>
    let size := (rest.takeWhile (· ≠ '\x7d')).length
    match trimmed.drop (after + 1 + size) with
    | '\x7d' :: ']' :: _ => do
      let (field, valued) ← field? ((text.drop (after + 1)).take size)
      let rank ← close? trimmed text (after + size + 3)
      pure (if span ≠ [] || valued then .dynamic else .about ⟨target, [field], rank⟩)
    | _ => none
  | _ => none

/-- The statement of a text without a comma. A word alone is a rank, if it can be, and else a
target. -/
def ofText? (text : List Char) : Option Statement :=
  let trimmed := Text.trim text
  match trimmed with
  | [] => none
  | '[' :: _ => bracketed? trimmed text none 1
  | c :: _ =>
    if isOpening c then
      let size := (trimmed.takeWhile fun c => c ≠ '=' && c ≠ '[').length
      let target := String.ofList (text.take size)
      match trimmed.drop size with
      | '=' :: _ => (givenRank? (text.drop (size + 1))).map fun n => .about ⟨some target, [], n⟩
      | '[' :: _ => bracketed? trimmed text (some target) (size + 1)
      | _ =>
        some (.about (match rank? text with
          | some n => all n
          | none => ⟨some (String.ofList text), [], fullRank⟩))
    else none

end Directive

/-- A list of directives. -/
abbrev Filter := List Directive

namespace Filter

/-- The filter where none is given, or one that cannot be read: everything but details. -/
def usual : Filter := [.all Level.info.rank]

/-- The filter without a directive: errors only. -/
def least : Filter := [.all Level.error.rank]

/-- The filter of a text, if each of its directives can be read. -/
def read? (text : String) : Option Filter := do
  let parts := (Text.pieces ',' text.toList).filter (· ≠ [])
  let statements ← parts.mapM Directive.ofText?
  if statements = [] then pure least
  else
    pure (statements.filterMap fun s => match s with
      | .about d => some d
      | .dynamic => none)

/-- The filter that an environment may give. -/
def ofText? (text : Option String) : Filter := (text.bind read?).getD usual

/-- The directive that decides about a record. -/
def deciding? (f : Filter) (r : Record) : Option Directive :=
  (f.filter (·.concerns r)).foldl (fun best d =>
    match best with
    | some b => if b.precedes d then some b else some d
    | none => some d) none

/-- Whether a record is written. -/
def admits (f : Filter) (r : Record) : Bool := (f.deciding? r).any fun d => r.level.rank ≤ d.rank

/-- The records that are written. -/
def apply (f : Filter) (rs : List Record) : List Record := rs.filter f.admits

end Filter

end ClusterCensus.Log
