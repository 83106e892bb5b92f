import TypedPath.Text.CodePointSet

/-! Patterns as they are written, before flags give them a meaning.

The main measure is the depth of a written pattern: brackets, groups, repetitions, sequences and
alternatives inside each other. Patterns that are too deep are refused. -/

namespace TypedPath

namespace Pattern

open TypedPath.Text

inductive Flag where
  | ignoreCase
  | multiLine
  | dotAll
  | swapGreed
  | carriageReturns
  | unicode
  | verbose
  deriving DecidableEq

def Flag.ofLetter? : Char → Option Flag
  | 'i' => some ignoreCase
  | 'm' => some multiLine
  | 's' => some dotAll
  | 'U' => some swapGreed
  | 'R' => some carriageReturns
  | 'u' => some unicode
  | 'x' => some verbose
  | _ => none

structure FlagChange where
  flag : Flag
  on : Bool

/-- A character of a pattern. An octet is one that is written as two hexadecimal digits. -/
structure Letter where
  character : Char
  octet : Bool

inductive Shorthand where
  | digit
  | space
  | word

inductive PropertyName where
  | alone (name : String)
  | withValue (property value : String)

inductive Boundary where
  | lineStart
  | lineEnd
  | textStart
  | textEnd
  | word
  | notWord
  | wordStart
  | wordEnd
  | wordStartHalf
  | wordEndHalf

inductive SetOperator where
  | intersection
  | difference
  | symmetricDifference

mutual

inductive SetBody where
  | item (item : SetItem)
  | combined (op : SetOperator) (left right : SetBody)

inductive SetItem where
  | empty
  | letter (letter : Letter)
  | range (first last : Letter)
  | named (set : CodePointSet) (negated : Bool)
  | shorthand (name : Shorthand) (negated : Bool)
  | property (name : PropertyName) (negated : Bool)
  | bracketed (negated : Bool) (body : SetBody)
  | union (items : List SetItem)

end

inductive GroupKind where
  | capturing (index : Nat)
  | plain (changes : List FlagChange)

end Pattern

inductive Written where
  | empty
  | directive (changes : List Pattern.FlagChange)
  | letter (letter : Pattern.Letter)
  | dot
  | boundary (condition : Pattern.Boundary)
  | shorthand (name : Pattern.Shorthand) (negated : Bool)
  | property (name : Pattern.PropertyName) (negated : Bool)
  | set (negated : Bool) (body : Pattern.SetBody)
  | repetition (body : Written) (least : Nat) (most : Option Nat) (reluctant : Bool)
  | group (kind : Pattern.GroupKind) (body : Written)
  | alternatives (branches : List Written)
  | sequence (items : List Written)

namespace Pattern

mutual

def SetBody.depth : SetBody → Nat
  | .item i => i.depth
  | .combined _ left right => max left.depth right.depth + 1
termination_by structural body => body

def SetItem.depth : SetItem → Nat
  | .bracketed _ body => body.depth + 1
  | .union items => depthOfItems items + 1
  | .empty | .letter _ | .range _ _ | .named _ _ | .shorthand _ _ | .property _ _ => 0
termination_by structural item => item

def depthOfItems : List SetItem → Nat
  | [] => 0
  | item :: items => max item.depth (depthOfItems items)
termination_by structural items => items

end

end Pattern

mutual

def Written.depth : Written → Nat
  | .set _ body => body.depth + 1
  | .repetition body _ _ _ => body.depth + 1
  | .group _ body => body.depth + 1
  | .alternatives branches => Pattern.depthOfAll branches + 1
  | .sequence items => Pattern.depthOfAll items + 1
  | .empty | .directive _ | .letter _ | .dot | .boundary _ | .shorthand _ _ | .property _ _ => 0
termination_by structural written => written

def Pattern.depthOfAll : List Written → Nat
  | [] => 0
  | written :: rest => max written.depth (Pattern.depthOfAll rest)
termination_by structural writtens => writtens

end

def Pattern.depthLimit : Nat := 250

def Written.limited? (written : Written) : Option Written :=
  if written.depth ≤ Pattern.depthLimit then some written else none

def Pattern.SetBody.limited? (body : Pattern.SetBody) : Option Pattern.SetBody :=
  if body.depth ≤ Pattern.depthLimit then some body else none

end TypedPath
