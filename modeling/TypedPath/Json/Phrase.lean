import TypedPath.Number.Numeral

/-! The written form of JSON documents.

A phrase is a document as it is written: numbers are numerals of any size, and a string may hold
half of a surrogate pair. What a phrase stands for is decided later, by whoever reads it. -/

namespace TypedPath

structure WrittenNumber where
  numeral : Number.Numeral
  plain : Bool

/-- A document as it is written. A string is absent when it holds an unpaired surrogate. -/
inductive Phrase where
  | null
  | bool (value : Bool)
  | number (value : WrittenNumber)
  | string (value : Option String)
  | array (items : List Phrase)
  | object (members : List (Option String × Phrase))

namespace Phrase

def isBlank (c : Char) : Bool := c = ' ' || c = '\n' || c = '\t' || c = '\r'

def skipBlanks (cs : List Char) : List Char := cs.dropWhile isBlank

def hexDigit? (c : Char) : Option Nat :=
  if '0' ≤ c && c ≤ '9' then some (c.toNat - '0'.toNat)
  else if 'a' ≤ c && c ≤ 'f' then some (c.toNat - 'a'.toNat + 10)
  else if 'A' ≤ c && c ≤ 'F' then some (c.toNat - 'A'.toNat + 10)
  else none

def hexUnit? : List Char → Option (Nat × List Char)
  | a :: b :: c :: d :: rest => do
    let a ← hexDigit? a
    let b ← hexDigit? b
    let c ← hexDigit? c
    let d ← hexDigit? d
    some (((a * 16 + b) * 16 + c) * 16 + d, rest)
  | _ => none

def simpleEscape? : Char → Option Char
  | '"' => some '"'
  | '\\' => some '\\'
  | '/' => some '/'
  | 'b' => some '\x08'
  | 'f' => some '\x0c'
  | 'n' => some '\n'
  | 'r' => some '\r'
  | 't' => some '\t'
  | _ => none

/-- The units of a string up to its closing quote: code points, and halves of surrogate pairs. -/
def units? : Nat → List Char → Option (List Nat × List Char)
  | 0, _ => none
  | _ + 1, [] => none
  | _ + 1, '"' :: rest => some ([], rest)
  | fuel + 1, '\\' :: 'u' :: rest => do
    let (unit, rest) ← hexUnit? rest
    let (units, rest) ← units? fuel rest
    some (unit :: units, rest)
  | fuel + 1, '\\' :: c :: rest => do
    let c ← simpleEscape? c
    let (units, rest) ← units? fuel rest
    some (c.toNat :: units, rest)
  | fuel + 1, c :: rest =>
    if c = '\\' || c.toNat < 0x20 then none
    else do
      let (units, rest) ← units? fuel rest
      some (c.toNat :: units, rest)

def isHighSurrogate (unit : Nat) : Bool := 0xD800 ≤ unit && unit < 0xDC00

def isLowSurrogate (unit : Nat) : Bool := 0xDC00 ≤ unit && unit < 0xE000

def joinSurrogates : List Nat → Option (List Char)
  | [] => some []
  | [unit] =>
    if isHighSurrogate unit || isLowSurrogate unit then none else some [Char.ofNat unit]
  | first :: second :: rest =>
    if isHighSurrogate first then
      if isLowSurrogate second then
        (joinSurrogates rest).map
          (Char.ofNat (0x10000 + (first - 0xD800) * 0x400 + (second - 0xDC00)) :: ·)
      else none
    else if isLowSurrogate first then none
    else (joinSurrogates (second :: rest)).map (Char.ofNat first :: ·)

def readString? (cs : List Char) : Option (Option String × List Char) := do
  let (units, rest) ← units? (cs.length + 1) cs
  some ((joinSurrogates units).map String.ofList, rest)

def wholeDigits? (cs : List Char) : Option (List Char × List Char) :=
  match Number.takeDigits cs with
  | ([], _) => none
  | ('0' :: _ :: _, _) => none
  | taken => some taken

def fractionDigits? : List Char → Option (Option (List Char) × List Char)
  | '.' :: rest =>
    match Number.takeDigits rest with
    | ([], _) => none
    | (ds, rest) => some (some ds, rest)
  | cs => some (none, cs)

def exponent? : List Char → Option (Option Int × List Char)
  | [] => some (none, [])
  | c :: rest =>
    if c = 'e' || c = 'E' then
      let (negative, rest) := Number.takeSign rest
      match Number.takeDigits rest with
      | ([], _) => none
      | (ds, rest) =>
        let size : Int := Number.digitsValue ds
        some (some (if negative then -size else size), rest)
    else some (none, c :: rest)

def readNumber? (negative : Bool) (cs : List Char) : Option (WrittenNumber × List Char) := do
  let (whole, rest) ← wholeDigits? cs
  let (fraction, rest) ← fractionDigits? rest
  let (exponent, rest) ← exponent? rest
  let places := fraction.getD []
  some (⟨⟨negative, Number.digitsValue (whole ++ places), exponent.getD 0 - places.length⟩,
    fraction.isNone && exponent.isNone⟩, rest)

mutual

def read? : Nat → List Char → Option (Phrase × List Char)
  | 0, _ => none
  | fuel + 1, cs =>
    match skipBlanks cs with
    | 'n' :: 'u' :: 'l' :: 'l' :: rest => some (.null, rest)
    | 't' :: 'r' :: 'u' :: 'e' :: rest => some (.bool true, rest)
    | 'f' :: 'a' :: 'l' :: 's' :: 'e' :: rest => some (.bool false, rest)
    | '"' :: rest => (readString? rest).map fun (text, rest) => (.string text, rest)
    | '-' :: rest => (readNumber? true rest).map fun (n, rest) => (.number n, rest)
    | '[' :: rest =>
      match skipBlanks rest with
      | ']' :: rest => some (.array [], rest)
      | rest => (readItems? fuel rest).map fun (items, rest) => (.array items, rest)
    | '\x7b' :: rest =>
      match skipBlanks rest with
      | '\x7d' :: rest => some (.object [], rest)
      | rest => (readMembers? fuel rest).map fun (members, rest) => (.object members, rest)
    | rest => (readNumber? false rest).map fun (n, rest) => (.number n, rest)

def readItems? : Nat → List Char → Option (List Phrase × List Char)
  | 0, _ => none
  | fuel + 1, cs => do
    let (item, rest) ← read? fuel cs
    match skipBlanks rest with
    | ',' :: rest =>
      let (items, rest) ← readItems? fuel rest
      some (item :: items, rest)
    | ']' :: rest => some ([item], rest)
    | _ => none

def readMembers? : Nat → List Char → Option (List (Option String × Phrase) × List Char)
  | 0, _ => none
  | fuel + 1, cs => do
    match skipBlanks cs with
    | '"' :: rest =>
      let (name, rest) ← readString? rest
      match skipBlanks rest with
      | ':' :: rest =>
        let (value, rest) ← read? fuel rest
        match skipBlanks rest with
        | ',' :: rest =>
          let (members, rest) ← readMembers? fuel rest
          some ((name, value) :: members, rest)
        | '\x7d' :: rest => some ([(name, value)], rest)
        | _ => none
      | _ => none
    | _ => none

end

def parse? (text : String) : Option Phrase := do
  let cs := text.toList
  let (phrase, rest) ← read? (2 * cs.length + 2) cs
  if (skipBlanks rest).isEmpty then some phrase else none

def plainInt? (n : WrittenNumber) : Option Int :=
  if n.plain && !(n.numeral.negative && n.numeral.coefficient == 0) then
    some (if n.numeral.negative then -(n.numeral.coefficient : Int) else n.numeral.coefficient)
  else none

end Phrase

end TypedPath
