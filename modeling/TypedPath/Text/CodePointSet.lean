/-! Sets of characters, given by closed ranges of code points.

The ranges stand in ascending order, and between two of them there is a character that is in
neither. Surrogates are no characters, so a range may run across them, and two sets with the same
characters have the same ranges. -/

namespace TypedPath.Text

/-- A set of characters as closed ranges of code points. -/
structure CodePointSet where
  ranges : List (Nat × Nat)
  deriving DecidableEq, Repr

def lastCodePoint : Nat := 0x10FFFF

def nextCodePoint (code : Nat) : Nat := if code = 0xD7FF then 0xE000 else code + 1

def previousCodePoint (code : Nat) : Nat := if code = 0xE000 then 0xD7FF else code - 1

namespace CodePointSet

def empty : CodePointSet := ⟨[]⟩

def full : CodePointSet := ⟨[(0, lastCodePoint)]⟩

def range (first last : Nat) : CodePointSet := ⟨[(first, last)]⟩

def singleton (c : Char) : CodePointSet := range c.toNat c.toNat

def isEmpty (set : CodePointSet) : Bool := set.ranges.isEmpty

def containsCode (set : CodePointSet) (code : Nat) : Bool :=
  set.ranges.any fun (first, last) => first ≤ code && code ≤ last

def contains (set : CodePointSet) (c : Char) : Bool := set.containsCode c.toNat

def join (first last : Nat) : List (Nat × Nat) → List (Nat × Nat)
  | [] => [(first, last)]
  | (next, stop) :: rest =>
    if next ≤ nextCodePoint last then join first (max last stop) rest
    else (first, last) :: join next stop rest

def ofAscending : List (Nat × Nat) → CodePointSet
  | [] => empty
  | (first, last) :: rest => ⟨join first last rest⟩

def ofRanges (ranges : List (Nat × Nat)) : CodePointSet :=
  ofAscending (ranges.mergeSort fun a b => a.1 ≤ b.1)

def union (a b : CodePointSet) : CodePointSet :=
  ofAscending (a.ranges.merge b.ranges fun a b => a.1 ≤ b.1)

def gaps (start : Nat) : List (Nat × Nat) → List (Nat × Nat)
  | [] => if start ≤ lastCodePoint then [(start, lastCodePoint)] else []
  | (first, last) :: rest =>
    if start < first then (start, previousCodePoint first) :: gaps (nextCodePoint last) rest
    else gaps (nextCodePoint last) rest

def complement (set : CodePointSet) : CodePointSet := ⟨gaps 0 set.ranges⟩

def intersection (a b : CodePointSet) : CodePointSet :=
  (a.complement.union b.complement).complement

def difference (a b : CodePointSet) : CodePointSet := a.intersection b.complement

def symmetricDifference (a b : CodePointSet) : CodePointSet :=
  (a.union b).difference (a.intersection b)

def unionAll (sets : List CodePointSet) : CodePointSet := ofRanges (sets.flatMap (·.ranges))

def only? (set : CodePointSet) : Option Char :=
  match set.ranges with
  | [(first, last)] => if first = last then some (Char.ofNat first) else none
  | _ => none

def isBasic (set : CodePointSet) : Bool := set.ranges.all fun (_, last) => last < 0x80

def hexNumber (digits : String) : Nat :=
  digits.toList.foldl
    (fun n d => 16 * n + if d.isDigit then d.toNat - '0'.toNat else d.toNat - 'A'.toNat + 10) 0

/-- The code points of a written range: `41` is one, `41-5A` are all from the first to the last, and
`41-5B/2` every second of them. -/
def readRange (text : String) : List (Nat × Nat) :=
  match text.splitOn "-" with
  | [first, last] =>
    match last.splitOn "/" with
    | [last, _] =>
      let first := hexNumber first
      (List.range ((hexNumber last - first) / 2 + 1)).map fun i => (first + 2 * i, first + 2 * i)
    | _ => [(hexNumber first, hexNumber last)]
  | _ => [(hexNumber text, hexNumber text)]

def ofLines (lines : List String) : CodePointSet :=
  ofAscending (lines.flatMap fun line => (line.splitOn " ").flatMap readRange)

end CodePointSet

end TypedPath.Text
