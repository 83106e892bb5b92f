import TypedPath.Pattern.Written
import TypedPath.Text.Property.Binary

/-! Blanks, escapes and counts in the written form of patterns.

In verbose patterns blanks and comments count for nothing, also inside of most escapes. -/

namespace TypedPath.Pattern

attribute [local instance (high)] instPowNat

open TypedPath.Text

def isBlank (c : Char) : Bool := Property.whiteSpace.contains c

def skipFrom (verbose comment : Bool) : List Char → List Char
  | [] => []
  | c :: rest =>
    if !verbose then c :: rest
    else if comment then skipFrom verbose (c != '\n') rest
    else if isBlank c then skipFrom verbose false rest
    else if c = '#' then skipFrom verbose true rest
    else c :: rest

def skipBlanks (verbose : Bool) (cs : List Char) : List Char := skipFrom verbose false cs

theorem skipFrom_length_le (verbose comment : Bool) (cs : List Char) :
    (skipFrom verbose comment cs).length ≤ cs.length := by
  induction cs generalizing comment with
  | nil => simp [skipFrom]
  | cons c rest ih =>
    rw [skipFrom]
    split
    · exact Nat.le_refl _
    · split
      · exact Nat.le_succ_of_le (ih _)
      · split
        · exact Nat.le_succ_of_le (ih _)
        · split
          · exact Nat.le_succ_of_le (ih _)
          · exact Nat.le_refl _

/-- The characters up to the first that does not belong, without blanks and comments of a verbose
pattern between them, and the rest. -/
def spanBetweenBlanks (verbose : Bool) (belongs : Char → Bool) :
    List Char → List Char × List Char
  | [] => ([], [])
  | c :: rest =>
    if belongs c then
      let (taken, rest) := spanBetweenBlanks verbose belongs (skipBlanks verbose rest)
      (c :: taken, rest)
    else ([], c :: rest)
termination_by cs => cs.length
decreasing_by exact Nat.lt_succ_of_le (skipFrom_length_le verbose false rest)

def isMeta (c : Char) : Bool :=
  "\\.+*?()|[]\x7b\x7d^$#&-~".toList.contains c

def isEscapable (c : Char) : Bool :=
  isMeta c || c.toNat < 0x80 && !c.isAlphanum && c != '<' && c != '>'

inductive Primitive where
  | letter (letter : Letter)
  | boundary (condition : Boundary)
  | shorthand (name : Shorthand) (negated : Bool)
  | property (name : PropertyName) (negated : Bool)

def hexValue? (c : Char) : Option Nat :=
  if c.isDigit then some (c.toNat - '0'.toNat)
  else if 'a' ≤ c && c ≤ 'f' then some (c.toNat - 'a'.toNat + 10)
  else if 'A' ≤ c && c ≤ 'F' then some (c.toNat - 'A'.toNat + 10)
  else none

def hexCharacter? (digits : List Char) : Option Char := do
  let code ← digits.foldlM (fun n d => (hexValue? d).map (16 * n + ·)) 0
  if code.isValidChar then some (Char.ofNat code) else none

def takeBetweenBlanks? (verbose : Bool) : Nat → List Char → Option (List Char × List Char)
  | 0, cs => some ([], cs)
  | _ + 1, [] => none
  | n + 1, c :: rest => do
    let (taken, rest) ← takeBetweenBlanks? verbose n (skipBlanks verbose rest)
    some (c :: taken, rest)

def readBraces? (verbose : Bool) (cs : List Char) : Option (List Char × List Char) :=
  match spanBetweenBlanks verbose (· != '\x7d') (skipBlanks verbose cs) with
  | (inside, '\x7d' :: rest) => some (inside, rest)
  | _ => none

def readHex? (verbose : Bool) (count : Nat) (cs : List Char) : Option (Letter × List Char) :=
  match skipBlanks verbose cs with
  | '\x7b' :: rest => do
    let (digits, rest) ← readBraces? verbose rest
    if digits.isEmpty then none
    else (hexCharacter? digits).map fun c => (⟨c, false⟩, skipBlanks verbose rest)
  | cs => do
    let (digits, rest) ← takeBetweenBlanks? verbose count cs
    (hexCharacter? digits).map fun c => (⟨c, count == 2⟩, rest)

def propertyName (inside : List Char) : PropertyName :=
  match splitAtSign ['!', '='] inside <|> splitAtSign [':'] inside <|> splitAtSign ['='] inside with
  | some (property, value) => .withValue (String.ofList property) (String.ofList value)
  | none => .alone (String.ofList inside)
where
  splitAtSign (sign : List Char) : List Char → Option (List Char × List Char)
    | [] => none
    | c :: rest =>
      if sign.isPrefixOf (c :: rest) then some ([], (c :: rest).drop sign.length)
      else (splitAtSign sign rest).map fun (before, after) => (c :: before, after)

def readProperty? (verbose : Bool) (cs : List Char) : Option (PropertyName × List Char) :=
  match skipBlanks verbose cs with
  | [] => none
  | '\x7b' :: rest => (readBraces? verbose rest).map fun (inside, rest) =>
    (propertyName inside, rest)
  | '\\' :: _ => none
  | c :: rest => some (.alone c.toString, rest)

/-- A special boundary in braces behind `\b`. Braces with anything but letters and hyphens first are
left to be counts. -/
def readSpecialBoundary? (verbose : Bool) (cs : List Char) :
    Option (Option Boundary × List Char) :=
  match cs with
  | '\x7b' :: inside =>
    match skipBlanks verbose inside with
    | [] => none
    | c :: more =>
      if !isNameCharacter c then some (none, cs)
      else
        match spanBetweenBlanks verbose isNameCharacter (c :: more) with
        | (name, '\x7d' :: rest) =>
          match String.ofList name with
          | "start" => some (some .wordStart, rest)
          | "end" => some (some .wordEnd, rest)
          | "start-half" => some (some .wordStartHalf, rest)
          | "end-half" => some (some .wordEndHalf, rest)
          | _ => none
        | _ => none
  | _ => some (none, cs)
where
  isNameCharacter (c : Char) : Bool := c.isAlpha || c = '-'

def readEscape? (verbose : Bool) : List Char → Option (Primitive × List Char)
  | [] => none
  | c :: rest =>
    let literal := fun (c : Char) => some (Primitive.letter ⟨c, false⟩, rest)
    let boundary := fun (condition : Boundary) => some (Primitive.boundary condition, rest)
    match c with
    | 'x' => (readHex? verbose 2 rest).map fun (letter, rest) => (.letter letter, rest)
    | 'u' => (readHex? verbose 4 rest).map fun (letter, rest) => (.letter letter, rest)
    | 'U' => (readHex? verbose 8 rest).map fun (letter, rest) => (.letter letter, rest)
    | 'p' => (readProperty? verbose rest).map fun (name, rest) => (.property name false, rest)
    | 'P' => (readProperty? verbose rest).map fun (name, rest) => (.property name true, rest)
    | 'd' => some (.shorthand .digit false, rest)
    | 's' => some (.shorthand .space false, rest)
    | 'w' => some (.shorthand .word false, rest)
    | 'D' => some (.shorthand .digit true, rest)
    | 'S' => some (.shorthand .space true, rest)
    | 'W' => some (.shorthand .word true, rest)
    | 'a' => literal '\x07'
    | 'f' => literal '\x0c'
    | 't' => literal '\t'
    | 'n' => literal '\n'
    | 'r' => literal '\r'
    | 'v' => literal '\x0b'
    | 'A' => boundary .textStart
    | 'z' => boundary .textEnd
    | 'b' => (readSpecialBoundary? verbose rest).map fun (special, rest) =>
      (.boundary (special.getD .word), rest)
    | 'B' => boundary .notWord
    | '<' => boundary .wordStart
    | '>' => boundary .wordEnd
    | c => if isEscapable c then literal c else none

def readCount? (verbose : Bool) (cs : List Char) : Option (Nat × List Char) :=
  let (digits, rest) := spanBetweenBlanks verbose Char.isDigit (cs.dropWhile isBlank)
  let (_, rest) := spanBetweenBlanks verbose isBlank rest
  let count := digits.foldl (fun n d => 10 * n + (d.toNat - '0'.toNat)) 0
  if digits.isEmpty || 2 ^ (32 : Nat) ≤ count then none else some (count, rest)

def readCounts? (verbose : Bool) (cs : List Char) : Option (Nat × Option Nat × List Char) := do
  let (least, rest) ← readCount? verbose (skipBlanks verbose cs)
  match rest with
  | '\x7d' :: rest => some (least, some least, rest)
  | ',' :: rest =>
    match skipBlanks verbose rest with
    | '\x7d' :: rest => some (least, none, rest)
    | rest =>
      match ← readCount? verbose rest with
      | (most, '\x7d' :: rest) => if least ≤ most then some (least, some most, rest) else none
      | _ => none
  | _ => none

end TypedPath.Pattern
