import TypedPath.Pattern.Simplify
import TypedPath.Pattern.Written
import TypedPath.Text.CaseFolding
import TypedPath.Text.Property.Name

/-! The meaning of written patterns under flags.

Without the flag for all characters a pattern knows the basic ones only. A set that would take in
parts of other characters has no meaning then. -/

namespace TypedPath

namespace Pattern

open TypedPath.Text

structure Flags where
  ignoreCase : Bool
  multiLine : Bool
  dotAll : Bool
  swapGreed : Bool
  carriageReturns : Bool
  unicode : Bool

namespace Flags

def standard : Flags := ⟨false, false, false, false, false, true⟩

def change (flags : Flags) (change : FlagChange) : Flags :=
  match change.flag with
  | .ignoreCase => { flags with ignoreCase := change.on }
  | .multiLine => { flags with multiLine := change.on }
  | .dotAll => { flags with dotAll := change.on }
  | .swapGreed => { flags with swapGreed := change.on }
  | .carriageReturns => { flags with carriageReturns := change.on }
  | .unicode => { flags with unicode := change.on }
  | .verbose => flags

def changeAll (flags : Flags) (changes : List FlagChange) : Flags :=
  changes.foldl Flags.change flags

def fold (flags : Flags) (members : CodePointSet) : CodePointSet :=
  if flags.ignoreCase then
    if flags.unicode then members.ignoringCase else members.ignoringBasicCase
  else members

def negate? (flags : Flags) (negated : Bool) (members : CodePointSet) : Option CodePointSet :=
  if negated then if flags.unicode then some members.complement else none else some members

def foldAndNegate? (flags : Flags) (negated : Bool) (members : CodePointSet) :
    Option CodePointSet :=
  flags.negate? negated (flags.fold members)

def codePoint? (flags : Flags) (letter : Letter) : Option Nat :=
  if flags.unicode || letter.character.toNat < 0x80 then some letter.character.toNat else none

def shorthand? (flags : Flags) (name : Shorthand) (negated : Bool) : Option CodePointSet :=
  flags.negate? negated <|
    match name, flags.unicode with
    | .digit, true => Property.category "nd"
    | .space, true => Property.whiteSpace
    | .word, true => Property.wordCharacters
    | .digit, false => .ofLines ["30-39"]
    | .space, false => .ofLines ["9-D 20"]
    | .word, false => basicWord

def property? (flags : Flags) (name : PropertyName) (negated : Bool) : Option CodePointSet := do
  if !flags.unicode then none
  let members ← match name with
    | .alone name => Property.named? name
    | .withValue property value => Property.valued? property value
  flags.foldAndNegate? negated members

def dot? (flags : Flags) : Option CodePointSet :=
  if !flags.unicode then none
  else if flags.dotAll then some .full
  else if flags.carriageReturns then some (CodePointSet.ofLines ["A D"]).complement
  else some (CodePointSet.singleton '\n').complement

def assertion (flags : Flags) : Boundary → Assertion
  | .lineStart => if flags.multiLine then .startOfLine flags.carriageReturns else .startOfText
  | .lineEnd => if flags.multiLine then .endOfLine flags.carriageReturns else .endOfText
  | .textStart => .startOfText
  | .textEnd => .endOfText
  | .word => .wordBoundary (!flags.unicode)
  | .notWord => .notWordBoundary (!flags.unicode)
  | .wordStart => .wordStart (!flags.unicode)
  | .wordEnd => .wordEnd (!flags.unicode)
  | .wordStartHalf => .wordStartHalf (!flags.unicode)
  | .wordEndHalf => .wordEndHalf (!flags.unicode)

def letter? (flags : Flags) (letter : Letter) : Option Pattern :=
  if !flags.unicode && letter.octet && 0x80 ≤ letter.character.toNat then none
  else some (ofSet (flags.fold (.singleton letter.character)) (!flags.unicode))

end Flags

def SetOperator.apply : SetOperator → CodePointSet → CodePointSet → CodePointSet
  | intersection => .intersection
  | difference => .difference
  | symmetricDifference => .symmetricDifference

mutual

def SetBody.members? (flags : Flags) : SetBody → Option CodePointSet
  | .item i => i.members? flags
  | .combined op left right => do
    let left ← left.members? flags
    let right ← right.members? flags
    some (op.apply (flags.fold left) (flags.fold right))
termination_by structural body => body

def SetItem.members? (flags : Flags) : SetItem → Option CodePointSet
  | .empty => some .empty
  | .letter l => (flags.codePoint? l).map fun code => .range code code
  | .range first last => do some (.range (← flags.codePoint? first) (← flags.codePoint? last))
  | .named members negated => flags.foldAndNegate? negated members
  | .shorthand name negated => flags.shorthand? name negated
  | .property name negated => flags.property? name negated
  | .bracketed negated body => do flags.foldAndNegate? negated (← body.members? flags)
  | .union items => (membersOfAll? flags items).map .unionAll
termination_by structural item => item

def membersOfAll? (flags : Flags) : List SetItem → Option (List CodePointSet)
  | [] => some []
  | item :: items => do some ((← item.members? flags) :: (← membersOfAll? flags items))
termination_by structural items => items

end

end Pattern

mutual

def Written.meaning? (flags : Pattern.Flags) : Written → Option (Pattern × Pattern.Flags)
  | .empty => some (.empty, flags)
  | .directive changes => some (.empty, flags.changeAll changes)
  | .letter l => (flags.letter? l).map (·, flags)
  | .dot => flags.dot?.map fun members => (.ofSet members false, flags)
  | .boundary condition => some (.assertion (flags.assertion condition), flags)
  | .shorthand name negated => (flags.shorthand? name negated).map fun members =>
    (.ofSet members (!flags.unicode), flags)
  | .property name negated => (flags.property? name negated).map fun members =>
    (.ofSet members false, flags)
  | .set negated body => do
    let members ← flags.foldAndNegate? negated (← body.members? flags)
    some (.ofSet members (!flags.unicode), flags)
  | .repetition body least most reluctant => do
    let (body, flags) ← body.meaning? flags
    some (body.repeated least most (reluctant != flags.swapGreed), flags)
  | .group (.plain changes) body => do
    let (body, _) ← body.meaning? (flags.changeAll changes)
    some (body, flags)
  | .group (.capturing index) body => do
    let (body, _) ← body.meaning? flags
    some (.capture index body, flags)
  | .alternatives branches => do
    let (branches, flags) ← Pattern.meaningOfAll? flags branches
    some (.choose branches, flags)
  | .sequence items => do
    let (items, flags) ← Pattern.meaningOfAll? flags items
    some (.inSequence items, flags)
termination_by structural written => written

/-- The meaning of patterns, the flags of each of which hold for those behind it too. -/
def Pattern.meaningOfAll? (flags : Pattern.Flags) :
    List Written → Option (List Pattern × Pattern.Flags)
  | [] => some ([], flags)
  | written :: rest => do
    let (pattern, flags) ← written.meaning? flags
    let (patterns, flags) ← Pattern.meaningOfAll? flags rest
    some (pattern :: patterns, flags)
termination_by structural writtens => writtens

end

end TypedPath
