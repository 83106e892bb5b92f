import TypedPath.Pattern.SetReader
import TypedPath.Text.Property.Added
import TypedPath.Text.Property.Derived

/-! The written form of patterns.

Patterns without a meaning are refused, among them references to groups and conditions on the text
further ahead or behind. -/

namespace TypedPath.Pattern

open TypedPath.Text

/-- Reads flags up to the sign that ends them: `)` changes the rest of the group, `:` opens a group
of its own. No flag may come twice, and the sign of negation needs a flag behind it. -/
def readFlags? (changes : List FlagChange) (negated dangling : Bool) :
    List Char → Option (List FlagChange × Char × List Char)
  | [] => none
  | c :: rest =>
    if c = ':' || c = ')' then if dangling then none else some (changes.reverse, c, rest)
    else if c = '-' then if negated then none else readFlags? changes true true rest
    else do
      let flag ← Flag.ofLetter? c
      if changes.any (·.flag == flag) then none
      else readFlags? (⟨flag, !negated⟩ :: changes) negated false rest

/-- Letters with which the name of a group can start, in version 17 of the character standard. -/
def nameLetters : CodePointSet := Property.alphabetic.union Property.addedLetters

def nameNumbers : CodePointSet :=
  (Property.categories ["nd", "nl", "no"]).union Property.addedNumbers

def isNameCharacter (first : Bool) (c : Char) : Bool :=
  c = '_' || nameLetters.contains c ||
    !first && (nameNumbers.contains c || c = '.' || c = '[' || c = ']')

def readGroupName? (cs : List Char) : Option (String × List Char) :=
  match cs.takeWhile (· != '>'), cs.dropWhile (· != '>') with
  | first :: name, '>' :: rest =>
    if isNameCharacter true first && name.all (isNameCharacter false) then
      some (String.ofList (first :: name), rest)
    else none
  | _, _ => none

inductive GroupStart where
  | capturing (name : Option String)
  | plain (changes : List FlagChange)
  | directive (changes : List FlagChange)

def readGroupStart? (verbose : Bool) (cs : List Char) : Option (GroupStart × List Char) :=
  match skipBlanks verbose cs with
  | '?' :: '=' :: _ => none
  | '?' :: '!' :: _ => none
  | '?' :: '<' :: '=' :: _ => none
  | '?' :: '<' :: '!' :: _ => none
  | '?' :: 'P' :: '<' :: rest => named rest
  | '?' :: '<' :: rest => named rest
  | '?' :: rest => do
    let (changes, terminator, rest) ← readFlags? [] false false rest
    if terminator = ':' then some (.plain changes, rest)
    else if changes.isEmpty then none
    else some (.directive changes, rest)
  | rest => some (.capturing none, rest)
where
  named (rest : List Char) : Option (GroupStart × List Char) :=
    (readGroupName? rest).map fun (name, rest) => (.capturing (some name), rest)

/-- What has been read of a group: the complete alternatives and the items of the open one, both
last first. -/
structure Level where
  branches : List Written
  items : List Written

namespace Level

def empty : Level := ⟨[], []⟩

def sequence (level : Level) : Written :=
  match level.items with
  | [] => .empty
  | [item] => item
  | items => .sequence items.reverse

def alternate (level : Level) : Level := ⟨level.sequence :: level.branches, []⟩

def close (level : Level) : Written :=
  match level.branches with
  | [] => level.sequence
  | branches => .alternatives (level.sequence :: branches).reverse

def add (level : Level) (item : Written) : Level := { level with items := item :: level.items }

def repeatLast? (level : Level) (least : Nat) (most : Option Nat) (reluctant : Bool) :
    Option Level :=
  match level.items with
  | [] => none
  | .directive _ :: _ => none
  | item :: items => do
    let item ← (Written.repetition item least most reluctant).limited?
    some { level with items := item :: items }

end Level

structure OpenGroup where
  before : Level
  kind : GroupKind
  verbose : Bool

structure Reading where
  level : Level
  groups : List OpenGroup
  verbose : Bool
  captures : Nat
  names : List String

namespace Reading

def start : Reading := ⟨.empty, [], false, 0, []⟩

def add (reading : Reading) (item : Written) : Reading :=
  { reading with level := reading.level.add item }

def verboseAfter (reading : Reading) (changes : List FlagChange) : Bool :=
  ((changes.find? (·.flag == .verbose)).map (·.on)).getD reading.verbose

def openGroup? (reading : Reading) (start : GroupStart) : Option Reading :=
  let opened := fun (kind : GroupKind) =>
    { reading with
      level := .empty
      groups := ⟨reading.level, kind, reading.verbose⟩ :: reading.groups }
  match start with
  | .directive changes =>
    some { reading.add (.directive changes) with verbose := reading.verboseAfter changes }
  | .plain changes =>
    some { opened (.plain changes) with verbose := reading.verboseAfter changes }
  | .capturing name =>
    if name.any reading.names.contains then none
    else
      let index := reading.captures + 1
      some { opened (.capturing index) with
        captures := index, names := name.toList ++ reading.names }

def closeGroup? (reading : Reading) : Option Reading :=
  match reading.groups with
  | [] => none
  | group :: outer => do
    let item ← (Written.group group.kind reading.level.close).limited?
    some { reading with
      level := group.before.add item, groups := outer, verbose := group.verbose }

def repeatLast? (reading : Reading) (least : Nat) (most : Option Nat) (cs : List Char) :
    Option (Reading × List Char) := do
  let (reluctant, rest) := match cs with
    | '?' :: rest => (true, rest)
    | cs => (false, cs)
  let level ← reading.level.repeatLast? least most reluctant
  some ({ reading with level := level }, rest)

end Reading

def Primitive.toWritten : Primitive → Written
  | letter l => .letter l
  | boundary condition => .boundary condition
  | shorthand name negated => .shorthand name negated
  | property name negated => .property name negated

def readPart? (reading : Reading) (c : Char) (rest : List Char) :
    Option (Reading × List Char) :=
  match c with
  | '(' => do
    let (start, rest) ← readGroupStart? reading.verbose rest
    (reading.openGroup? start).map (·, rest)
  | ')' => reading.closeGroup?.map (·, rest)
  | '|' => some ({ reading with level := reading.level.alternate }, rest)
  | '[' => (readSet? reading.verbose rest).map fun (negated, body, rest) =>
    (reading.add (.set negated body), rest)
  | '?' => reading.repeatLast? 0 (some 1) rest
  | '*' => reading.repeatLast? 0 none rest
  | '+' => reading.repeatLast? 1 none rest
  | '\x7b' => do
    let (least, most, rest) ← readCounts? reading.verbose rest
    reading.repeatLast? least most (skipBlanks reading.verbose rest)
  | '\\' => (readEscape? reading.verbose rest).map fun (primitive, rest) =>
    (reading.add primitive.toWritten, rest)
  | '.' => some (reading.add .dot, rest)
  | '^' => some (reading.add (.boundary .lineStart), rest)
  | '$' => some (reading.add (.boundary .lineEnd), rest)
  | c => some (reading.add (.letter ⟨c, false⟩), rest)

/-- Reads a pattern on to its end, where no group may be open. Every round takes at least one
character. -/
def readOn? : Nat → Reading → List Char → Option Written
  | 0, _, _ => none
  | rounds + 1, reading, cs =>
    if depthLimit < reading.groups.length then none
    else
      match skipBlanks reading.verbose cs with
      | [] => if reading.groups.isEmpty then reading.level.close.limited? else none
      | c :: rest => do
        let (reading, rest) ← readPart? reading c rest
        readOn? rounds reading rest

def read? (source : String) : Option Written :=
  readOn? (source.toList.length + 1) .start source.toList

end TypedPath.Pattern
