import TypedPath.Text.Property.Added
import TypedPath.Text.Property.Derived

/-! Text in double quotes, with every character that would not show on its own escaped. -/

namespace TypedPath.Text

/-- Characters that would not show on their own, in version 17 of the character standard: marks
that sit on the character before them, controls and format characters, what has no assigned or no
public meaning, separators other than the ordinary space, and the fillers of syllables. The two
halfwidth sound marks do show. -/
def hidden : CodePointSet :=
  .unionAll
    [Property.graphemeExtend.difference (.ofLines ["FF9E-FF9F"]), Property.addedMarks,
      Property.categories ["cc", "cf", "co", "zl", "zp"],
      (Property.category "zs").difference (.singleton ' '),
      Property.unassigned.difference Property.addedCharacters,
      .ofLines ["115F-1160 3164 FFA0"]]

def hexEscape (c : Char) : String :=
  "\\u\x7b" ++ String.ofList (Nat.toDigits 16 c.toNat) ++ "\x7d"

def escapeCharacter (c : Char) : String :=
  if c = '\x00' then "\\0"
  else if c = '\t' then "\\t"
  else if c = '\r' then "\\r"
  else if c = '\n' then "\\n"
  else if c = '\\' then "\\\\"
  else if c = '"' then "\\\""
  else if hidden.contains c then hexEscape c
  else c.toString

def quoted (text : String) : String :=
  "\"" ++ String.join (text.toList.map escapeCharacter) ++ "\""

end TypedPath.Text
