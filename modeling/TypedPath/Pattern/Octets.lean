import TypedPath.Text.CodePointSet

/-! Sets of characters as sequences of octet ranges.

A character takes one to four octets. A range of characters falls into pieces in which each octet
runs through a range of its own, whatever the others are. -/

namespace TypedPath.Pattern

open TypedPath.Text

abbrev OctetRange := Nat × Nat

/-- Where a range has to be cut, if it has to: the last code point of the first part. Characters of
different length are apart, and so are blocks of `64 ^ k` characters that are not whole. -/
def cut? (first last : Nat) : Option Nat :=
  ([0x7F, 0x7FF, 0xFFFF].find? fun border => first ≤ border && border < last) <|>
    if last < 0x80 then none
    else [64, 4096, 262144].findSome? fun block =>
      if first / block = last / block then none
      else if first % block != 0 then some (first / block * block + (block - 1))
      else if last % block != block - 1 then some (last / block * block - 1)
      else none

def octets (code : Nat) : List Nat := (String.utf8EncodeChar (Char.ofNat code)).map UInt8.toNat

def octetPieces (first last : Nat) : List (List OctetRange) :=
  match cut? first last with
  | none => [(octets first).zip (octets last)]
  | some cut =>
    if _h : first ≤ cut ∧ cut < last then octetPieces first cut ++ octetPieces (cut + 1) last
    else []
termination_by last - first

def octetSequences (first last : Nat) : List (List OctetRange) :=
  if first < 0xE000 && 0xD7FF < last then octetPieces first 0xD7FF ++ octetPieces 0xE000 last
  else octetPieces first last

end TypedPath.Pattern
