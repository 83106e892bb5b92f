import TypedPath.Pattern.Basic

/-! Patterns in a simpler form that matches the same.

Literals next to each other are joined, sequences and choices are flat, a choice of characters is a
set, and what the branches of a choice have in common at their start is taken out of it. -/

namespace TypedPath.Pattern

open TypedPath.Text

mutual

def leastLength : Pattern → Option Nat
  | empty | assertion _ => some 0
  | literal text => some text.length
  | set members _ => if members.isEmpty then none else some 1
  | repetition body least _ _ => body.leastLength.map (least * ·)
  | capture _ body => body.leastLength
  | sequence parts => leastLengthOfAll parts
  | choice branches => leastLengthOfEach branches
termination_by structural pattern => pattern

def leastLengthOfAll : List Pattern → Option Nat
  | [] => some 0
  | part :: parts => do some ((← part.leastLength) + (← leastLengthOfAll parts))
termination_by structural parts => parts

def leastLengthOfEach : List Pattern → Option Nat
  | [] => none
  | [branch] => branch.leastLength
  | branch :: branches => do some (min (← branch.leastLength) (← leastLengthOfEach branches))
termination_by structural branches => branches

end

mutual

def neverAdvances : Pattern → Bool
  | empty | assertion _ => true
  | literal _ | set _ _ => false
  | repetition body _ _ _ => body.neverAdvances
  | capture _ body => body.neverAdvances
  | sequence parts => neverAdvancesInAny parts
  | choice branches => neverAdvancesInAny branches
termination_by structural pattern => pattern

def neverAdvancesInAny : List Pattern → Bool
  | [] => true
  | pattern :: patterns => pattern.neverAdvances && neverAdvancesInAny patterns
termination_by structural patterns => patterns

end

mutual

/-- Whether the pattern has the condition before the first or behind the last character that it can
take up, whichever way it matches. `backward` tells to look at the end. -/
def requires (condition : Assertion) (backward : Bool) : Pattern → Bool
  | empty | literal _ | set _ _ => false
  | assertion other => other == condition
  | repetition body least _ _ => 0 < least && body.requires condition backward
  | capture _ body => body.requires condition backward
  | sequence parts => (requiresInSequence condition backward parts).1
  | choice branches => requiresInEach condition backward branches
termination_by structural pattern => pattern

def requiresInSequence (condition : Assertion) (backward : Bool) : List Pattern → Bool × Bool
  | [] => (false, true)
  | part :: parts =>
    let (later, still) := requiresInSequence condition backward parts
    let own := part.requires condition backward
    if backward then (later || still && own, still && part.neverAdvances)
    else (own || part.neverAdvances && later, still && part.neverAdvances)
termination_by structural parts => parts

def requiresInEach (condition : Assertion) (backward : Bool) : List Pattern → Bool
  | [] => true
  | branch :: branches =>
    branch.requires condition backward && requiresInEach condition backward branches
termination_by structural branches => branches

end

mutual

def same : Pattern → Pattern → Bool
  | empty, empty => true
  | literal a, literal b => a == b
  | set a basic, set b basic' => a == b && basic == basic'
  | assertion a, assertion b => a == b
  | repetition a least most reluctant, repetition b least' most' reluctant' =>
    least == least' && most == most' && reluctant == reluctant' && a.same b
  | capture i a, capture j b => i == j && a.same b
  | sequence a, sequence b => sameAll a b
  | choice a, choice b => sameAll a b
  | _, _ => false
termination_by structural pattern => pattern

def sameAll : List Pattern → List Pattern → Bool
  | [], [] => true
  | a :: as, b :: bs => a.same b && sameAll as bs
  | _, _ => false
termination_by structural patterns => patterns

end

mutual

def parts : Pattern → Nat
  | empty | literal _ | set _ _ | assertion _ => 1
  | repetition body _ _ _ => body.parts + 1
  | capture _ body => body.parts + 1
  | sequence all => partsOfAll all + 1
  | choice all => partsOfAll all + 1
termination_by structural pattern => pattern

def partsOfAll : List Pattern → Nat
  | [] => 0
  | pattern :: patterns => pattern.parts + partsOfAll patterns
termination_by structural patterns => patterns

end

def fail : Pattern := set .empty true

def ofSet (members : CodePointSet) (basic : Bool) : Pattern :=
  if members.isEmpty then fail
  else
    match members.only? with
    | some c => literal [c]
    | none => set members basic

def repeated (body : Pattern) (least : Nat) (most : Option Nat) (reluctant : Bool) : Pattern :=
  let (least, most) :=
    if body.neverAdvances then (min least 1, some ((most.map (min · 1)).getD 1)) else (least, most)
  if most = some 0 then empty
  else if least = 1 && most = some 1 then body
  else repetition body least most reluctant

def flatParts : List Pattern → List Pattern
  | [] => []
  | sequence inner :: rest => inner ++ flatParts rest
  | empty :: rest => flatParts rest
  | part :: rest => part :: flatParts rest

def joinLiterals : List Pattern → List Pattern
  | [] => []
  | literal a :: rest =>
    match joinLiterals rest with
    | literal b :: rest => literal (a ++ b) :: rest
    | rest => literal a :: rest
  | part :: rest => part :: joinLiterals rest

def inSequence (patterns : List Pattern) : Pattern :=
  match joinLiterals (flatParts patterns) with
  | [] => empty
  | [part] => part
  | parts => sequence parts

def flatBranches : List Pattern → List Pattern
  | [] => []
  | choice inner :: rest => inner ++ flatBranches rest
  | branch :: rest => branch :: flatBranches rest

def singleCharacter? : Pattern → Option (Nat × Nat)
  | literal [c] => some (c.toNat, c.toNat)
  | _ => none

def setRanges? : Pattern → Option (List (Nat × Nat))
  | set members _ => some members.ranges
  | _ => none

/-- The set of all branches, if they are all single characters or all sets. -/
def branchSet? (branches : List Pattern) : Option CodePointSet :=
  match branches.mapM singleCharacter? with
  | some ranges => some (.ofRanges ranges)
  | none => (branches.mapM setRanges?).map fun ranges => .ofRanges ranges.flatten

def sequenceParts? : Pattern → Option (List Pattern)
  | sequence parts => some parts
  | _ => none

def commonLength : List Pattern → List Pattern → Nat
  | a :: as, b :: bs => if a.same b then commonLength as bs + 1 else 0
  | _, _ => 0

def commonStart? (branches : List Pattern) : Option (List Pattern × List (List Pattern)) := do
  let sequences ← branches.mapM sequenceParts?
  let first ← sequences.head?
  let length := sequences.foldl (fun length other => commonLength (first.take length) other)
    first.length
  if length = 0 then none else some (first.take length, sequences.map (·.drop length))

/-- A choice between patterns. Taking out a common start leaves a choice between smaller patterns,
so `room` for all their parts is enough. -/
def chooseWithin : Nat → List Pattern → Pattern
  | room, patterns =>
    match flatBranches patterns with
    | [] => fail
    | [branch] => branch
    | branches =>
      match branchSet? branches with
      | some members => ofSet members false
      | none =>
        match room, commonStart? branches with
        | room + 1, some (start, ends) =>
          inSequence (start ++ [chooseWithin room (ends.map inSequence)])
        | _, _ => choice branches

def choose (patterns : List Pattern) : Pattern := chooseWithin (partsOfAll patterns) patterns

end TypedPath.Pattern
