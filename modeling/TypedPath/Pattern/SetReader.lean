import TypedPath.Pattern.Escape

/-! The written form of sets in brackets. -/

namespace TypedPath.Pattern

open TypedPath.Text

def namedClass? : String → Option CodePointSet
  | "alnum" => some (.ofLines ["30-39 41-5A 61-7A"])
  | "alpha" => some (.ofLines ["41-5A 61-7A"])
  | "ascii" => some (.ofLines ["0-7F"])
  | "blank" => some (.ofLines ["9 20"])
  | "cntrl" => some (.ofLines ["0-1F 7F"])
  | "digit" => some (.ofLines ["30-39"])
  | "graph" => some (.ofLines ["21-7E"])
  | "lower" => some (.ofLines ["61-7A"])
  | "print" => some (.ofLines ["20-7E"])
  | "punct" => some (.ofLines ["21-2F 3A-40 5B-60 7B-7E"])
  | "space" => some (.ofLines ["9-D 20"])
  | "upper" => some (.ofLines ["41-5A"])
  | "word" => some (.ofLines ["30-39 41-5A 5F 61-7A"])
  | "xdigit" => some (.ofLines ["30-39 41-46 61-66"])
  | _ => none

def readNamedClass? : List Char → Option (SetItem × List Char)
  | ':' :: rest =>
    let (negated, rest) := match rest with
      | '^' :: rest => (true, rest)
      | rest => (false, rest)
    match rest.dropWhile (· != ':') with
    | ':' :: ']' :: after =>
      (namedClass? (String.ofList (rest.takeWhile (· != ':')))).map fun set =>
        (.named set negated, after)
    | _ => none
  | _ => none

def readSetOperator? : List Char → Option (SetOperator × List Char)
  | '&' :: '&' :: rest => some (.intersection, rest)
  | '-' :: '-' :: rest => some (.difference, rest)
  | '~' :: '~' :: rest => some (.symmetricDifference, rest)
  | _ => none

def readMember? (verbose : Bool) : List Char → Option (Primitive × List Char)
  | [] => none
  | '\\' :: rest => readEscape? verbose rest
  | c :: rest => some (.letter ⟨c, false⟩, rest)

/-- The character that decides whether a hyphen before it makes a range. In a verbose pattern blanks
do not count, and neither does the sign that starts a comment. -/
def peek (verbose : Bool) (cs : List Char) : Option Char :=
  if verbose then
    let blanks := cs.takeWhile isBlank
    match cs.drop blanks.length with
    | '#' :: comment => (comment.dropWhile isBlank).head? <|> cs.head?
    | other => other.head? <|> cs.head?
  else cs.head?

def Primitive.toSetItem? : Primitive → Option SetItem
  | letter l => some (.letter l)
  | shorthand name negated => some (.shorthand name negated)
  | property name negated => some (.property name negated)
  | boundary _ => none

/-- A member of a set, or a range of characters. A hyphen before a closing bracket or before another
hyphen makes no range. -/
def readRange? (verbose : Bool) (cs : List Char) : Option (SetItem × List Char) := do
  let (first, rest) ← readMember? verbose cs
  match skipBlanks verbose rest with
  | [] => none
  | '-' :: more =>
    let next := peek verbose more
    if next = some ']' || next = some '-' then (first.toSetItem?).map (·, '-' :: more)
    else
      let (last, rest) ← readMember? verbose (skipBlanks verbose more)
      match first, last with
      | .letter low, .letter high =>
        if low.character ≤ high.character then some (.range low high, rest) else none
      | _, _ => none
  | rest => (first.toSetItem?).map (·, rest)

/-- What is open while a set is read: a bracket with the items before it, or an operator with its
left side. -/
inductive SetFrame where
  | bracket (before : List SetItem) (negated : Bool)
  | operator (op : SetOperator) (left : SetBody)

structure SetReading where
  items : List SetItem
  frames : List SetFrame

namespace SetReading

def total (reading : SetReading) : SetItem :=
  match reading.items with
  | [] => .empty
  | [item] => item
  | items => .union items.reverse

def combined? (reading : SetReading) : Option (SetBody × List SetFrame) :=
  match reading.frames with
  | .operator op left :: outer =>
    (SetBody.combined op left (.item reading.total)).limited?.map (·, outer)
  | outer => some (.item reading.total, outer)

def add (reading : SetReading) (item : SetItem) : SetReading :=
  { reading with items := item :: reading.items }

end SetReading

def openSet (verbose : Bool) (reading : SetReading) (cs : List Char) : SetReading × List Char :=
  let (negated, cs) := match skipBlanks verbose cs with
    | '^' :: rest => (true, skipBlanks verbose rest)
    | cs => (false, cs)
  let outer := SetFrame.bracket reading.items negated :: reading.frames
  match spanBetweenBlanks verbose (· == '-') cs with
  | ([], ']' :: rest) => (⟨[.letter ⟨']', false⟩], outer⟩, skipBlanks verbose rest)
  | (hyphens, rest) => (⟨hyphens.map fun c => .letter ⟨c, false⟩, outer⟩, rest)

def readSetOn? (verbose : Bool) :
    Nat → SetReading → List Char → Option (Bool × SetBody × List Char)
  | 0, _, _ => none
  | rounds + 1, reading, cs =>
    if depthLimit < reading.frames.length then none
    else
      match skipBlanks verbose cs with
      | [] => none
      | ']' :: rest => do
        match ← reading.combined? with
        | (body, [.bracket _ negated]) => some (negated, body, rest)
        | (body, .bracket before negated :: outer) =>
          readSetOn? verbose rounds ⟨.bracketed negated body :: before, outer⟩ rest
        | _ => none
      | '[' :: rest =>
        match readNamedClass? rest with
        | some (item, rest) => readSetOn? verbose rounds (reading.add item) rest
        | none =>
          let (inner, rest) := openSet verbose reading rest
          readSetOn? verbose rounds inner rest
      | cs =>
        match readSetOperator? cs with
        | some (op, rest) => do
          let (left, outer) ← reading.combined?
          readSetOn? verbose rounds ⟨[], .operator op left :: outer⟩ rest
        | none => do
          let (item, rest) ← readRange? verbose cs
          readSetOn? verbose rounds (reading.add item) rest

def readSet? (verbose : Bool) (cs : List Char) : Option (Bool × SetBody × List Char) :=
  let (reading, rest) := openSet verbose ⟨[], []⟩ cs
  readSetOn? verbose (rest.length + 1) reading rest

end TypedPath.Pattern
