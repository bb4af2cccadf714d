/-!
# Characters, pieces and digits

What the other modules say of texts: tables of code points, as closed ranges in increasing order;
blanks, which are the spaces, tabs and line breaks of all scripts, the property `White_Space` of
Unicode 17; a text cut at every occurrence of one character, so that the pieces with that character
between them are the text again; and natural numbers read from decimal digits.
-/

namespace ClusterCensus

namespace Text

/-- Whether a code point lies in one of the closed ranges of a table. -/
def inRanges (ranges : List (Nat × Nat)) (code : Nat) : Bool :=
  ranges.any fun r => r.1 ≤ code && code ≤ r.2

/-- The ranges of the blanks. -/
def blankRanges : List (Nat × Nat) := [
  (0x9, 0xd), (0x20, 0x20), (0x85, 0x85), (0xa0, 0xa0), (0x1680, 0x1680), (0x2000, 0x200a),
  (0x2028, 0x2029), (0x202f, 0x202f), (0x205f, 0x205f), (0x3000, 0x3000)]

/-- Blanks of any script. -/
def isBlank (c : Char) : Bool :=
  inRanges blankRanges c.toNat

/-- A text without the blanks around it. -/
def trim (cs : List Char) : List Char :=
  ((cs.dropWhile isBlank).reverse.dropWhile isBlank).reverse

/-- The pieces of a text between the occurrences of a character. There is always one more piece
than there are occurrences. -/
def pieces (mark : Char) : List Char → List (List Char)
  | [] => [[]]
  | c :: cs =>
    if c = mark then [] :: pieces mark cs
    else
      match pieces mark cs with
      | p :: ps => (c :: p) :: ps
      | [] => [[c]]

/-- A text without the character is one piece. -/
theorem pieces_of_not_mem {mark : Char} {cs : List Char} (h : mark ∉ cs) :
    pieces mark cs = [cs] := by
  induction cs with
  | nil => rfl
  | cons c cs ih =>
    rw [List.mem_cons, not_or] at h
    simp [pieces, Ne.symm h.1, ih h.2]

end Text

namespace Natural

/-- The value of digits in base ten. -/
def digitsValue (ds : List Char) : Nat :=
  ds.foldl (fun n d => 10 * n + (d.toNat - '0'.toNat)) 0

/-- The greatest number that is read. -/
def greatest : Nat := UInt64.size - 1

/-- An unsigned number: digits, with or without a plus in front. -/
def read? (cs : List Char) : Option Nat :=
  let ds := match cs with
    | '+' :: rest => rest
    | cs => cs
  if ds ≠ [] && ds.all Char.isDigit && digitsValue ds ≤ greatest then some (digitsValue ds)
  else none

end Natural

end ClusterCensus
