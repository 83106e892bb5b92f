import TypedPath.Text.Property.Derived

/-! Patterns of text, and where they match.

A pattern takes a set of positions of a text to the set of positions that it can reach from there.
Positions lie between characters, so a text of `n` characters has `n + 1` of them. -/

namespace TypedPath

open Text

inductive Assertion where
  | startOfText
  | endOfText
  | startOfLine (carriageReturns : Bool)
  | endOfLine (carriageReturns : Bool)
  | wordBoundary (basic : Bool)
  | notWordBoundary (basic : Bool)
  | wordStart (basic : Bool)
  | wordEnd (basic : Bool)
  | wordStartHalf (basic : Bool)
  | wordEndHalf (basic : Bool)
  deriving DecidableEq

/-- A pattern of text. A set is basic if it was written without the rules for all characters. -/
inductive Pattern where
  | empty
  | literal (text : List Char)
  | set (members : CodePointSet) (basic : Bool)
  | assertion (condition : Assertion)
  | repetition (body : Pattern) (least : Nat) (most : Option Nat) (reluctant : Bool)
  | capture (index : Nat) (body : Pattern)
  | sequence (parts : List Pattern)
  | choice (branches : List Pattern)

def basicWord : CodePointSet := .ofLines ["30-39 41-5A 5F 61-7A"]

def isWord (basic : Bool) (c : Char) : Bool :=
  if basic then basicWord.contains c else Property.wordCharacters.contains c

def Assertion.holds (text : Array Char) (i : Nat) : Assertion → Bool
  | startOfText => i == 0
  | endOfText => i == text.size
  | startOfLine false => before == none || before == some '\n'
  | startOfLine true =>
    before == none || before == some '\n' || before == some '\r' && after != some '\n'
  | endOfLine false => after == none || after == some '\n'
  | endOfLine true =>
    after == none || after == some '\r' || after == some '\n' && before != some '\r'
  | wordBoundary basic => before.any (isWord basic) != after.any (isWord basic)
  | notWordBoundary basic => before.any (isWord basic) == after.any (isWord basic)
  | wordStart basic => !before.any (isWord basic) && after.any (isWord basic)
  | wordEnd basic => before.any (isWord basic) && !after.any (isWord basic)
  | wordStartHalf basic => !before.any (isWord basic)
  | wordEndHalf basic => !after.any (isWord basic)
where
  before : Option Char := if i = 0 then none else text[i - 1]?
  after : Option Char := text[i]?

abbrev Positions := List Nat

def marked (marks : Array Bool) : Positions :=
  (List.range marks.size).filter fun i => marks.getD i false

def mark (marks : Array Bool) (positions : Positions) : Array Bool :=
  positions.foldl (fun marks i => marks.setIfInBounds i true) marks

def unionPositions (size : Nat) (sets : List Positions) : Positions :=
  marked (sets.foldl mark (Array.replicate size false))

/-- Applies a step up to `rounds` times to what the round before has newly reached, and marks all
that is reached. -/
def spread (step : Positions → Positions) (marks : Array Bool) (latest : Positions) :
    Nat → Array Bool
  | 0 => marks
  | rounds + 1 =>
    let next := (step latest).filter fun i => !marks.getD i false
    if next.isEmpty then marks else spread step (mark marks next) next rounds

def advance (step : Positions → Positions) (positions : Positions) : Nat → Positions
  | 0 => positions
  | rounds + 1 => if positions.isEmpty then positions else advance step (step positions) rounds

def standsAt (text : Array Char) (i : Nat) : List Char → Bool
  | [] => true
  | c :: rest => text[i]? == some c && standsAt text (i + 1) rest

namespace Pattern

mutual

/-- The positions that the pattern reaches from those given. More than `n + 1` rounds of a
repetition reach nothing that fewer do not, in a text of `n` characters. -/
def reach (text : Array Char) : Pattern → Positions → Positions
  | empty, positions => positions
  | literal characters, positions =>
    positions.filterMap fun i =>
      if standsAt text i characters then some (i + characters.length) else none
  | set members _, positions =>
    positions.filterMap fun i => if text[i]?.any members.contains then some (i + 1) else none
  | assertion condition, positions => positions.filter fun i => condition.holds text i
  | repetition body least most _, positions =>
    let rounds := text.size + 1
    let first := advance (body.reach text) positions (min least rounds)
    let marks := mark (Array.replicate rounds false) first
    marked (spread (body.reach text) marks first (((most.map (· - least)).getD rounds).min rounds))
  | capture _ body, positions => body.reach text positions
  | sequence parts, positions => reachThrough text parts positions
  | choice branches, positions =>
    unionPositions (text.size + 1) (reachEach text branches positions)
termination_by structural pattern => pattern

def reachThrough (text : Array Char) : List Pattern → Positions → Positions
  | [], positions => positions
  | part :: parts, positions => reachThrough text parts (part.reach text positions)
termination_by structural parts => parts

def reachEach (text : Array Char) : List Pattern → Positions → List Positions
  | [], _ => []
  | branch :: branches, positions =>
    branch.reach text positions :: reachEach text branches positions
termination_by structural branches => branches

end

def occursIn (pattern : Pattern) (text : String) : Bool :=
  let characters := text.toList.toArray
  !(pattern.reach characters (List.range (characters.size + 1))).isEmpty

end Pattern

end TypedPath
