import TypedPath.Text.Property.Derived
import TypedPath.Text.Property.Script

/-! What characters do at the borders of graphemes, words and sentences. -/

namespace TypedPath.Text.Property

def script (name : String) : CodePointSet := ((scriptNamed? name).map (·.2)).getD .empty

def scripts (names : List String) : CodePointSet := .unionAll (names.map script)

def carriageReturn : CodePointSet := .ofLines ["D"]

def lineFeed : CodePointSet := .ofLines ["A"]

def zeroWidthJoiner : CodePointSet := .ofLines ["200D"]

/-- Syllables without a final consonant: every 28th of the block. -/
def openSyllables : CodePointSet :=
  .ofAscending ((List.range 399).map fun i => (0xAC00 + 28 * i, 0xAC00 + 28 * i))

def graphemeBreaks : List (List String × CodePointSet) := [
  (["cn", "control"],
    ((categories ["zl", "zp", "cc", "cf"]).union
      ((category "cn").intersection defaultIgnorable)).difference
      (.unionAll [carriageReturn, lineFeed, zeroWidthJoiner, graphemeExtend,
        prependedConcatenationMark])),
  (["cr"], carriageReturn),
  (["ex", "extend"], graphemeExtend.union emojiModifier),
  (["l"], .ofLines ["1100-115F A960-A97C"]),
  (["lf"], lineFeed),
  (["lv"], openSyllables),
  (["lvt"], (CodePointSet.range 0xAC00 0xD7A3).difference openSyllables),
  (["pp", "prepend"], .ofLines [
    "600-605 6DD 70F 890-891 8E2 D4E 110BD 110CD 111C2-111C3 113D1 1193F 11941 11A84-11A89",
    "11D46 11F02"]),
  (["ri", "regionalindicator"], regionalIndicator),
  (["sm", "spacingmark"],
    (((category "mc").difference graphemeExtend).union (.ofLines ["E33 EB3"])).difference
      (.ofLines [
        "102B-102C 1038 1062-1064 1067-106D 1083 1087-108C 108F 109A-109C 1A61 1A63-1A64 AA7B",
        "AA7D 11720-11721"])),
  (["t"], .ofLines ["11A8-11FF D7CB-D7FB"]),
  (["v"], .ofLines ["1160-11A7 D7B0-D7C6 16D63 16D67-16D6A"]),
  (["zwj"], zeroWidthJoiner)]

def wordExtend : CodePointSet :=
  (CodePointSet.unionAll [graphemeExtend, category "mc", emojiModifier]).difference zeroWidthJoiner

def hebrewLetter : CodePointSet := (script "hebrew").intersection (category "lo")

def katakanaAndMarks : CodePointSet :=
  (script "katakana").union (.ofLines ["3031-3035 309B-309C 30A0 30FC FF70"])

def spacedLetter : CodePointSet :=
  (alphabetic.difference (.unionAll
    [ideographic, katakanaAndMarks, wordExtend, hebrewLetter,
      scripts ["hiragana", "thai", "lao", "myanmar", "khmer", "taile", "newtailue", "taitham",
        "taiviet", "ahom"]])).union
    (.ofLines [
      "B8 2C2-2C5 2D2-2D7 2DE-2DF 2E5-2EB 2ED 2EF-2FF 55A-55C 55E 58A 5F3 70F A708-A716",
      "A720-A721 A789-A78A AB5B"])

def numberSigns : CodePointSet := .ofLines ["600-605 66B 6DD 890-891 8E2 19DA 110BD 110CD"]

def midLetter : CodePointSet := .ofLines ["3A B7 387 55F 5F4 2027 FE13 FE55 FF1A"]

def midNumberOrLetter : CodePointSet := .ofLines ["2E 2018-2019 2024 FE52 FF07 FF0E"]

def singleQuote : CodePointSet := .ofLines ["27"]

def wordBreaks : List (List String × CodePointSet) := [
  (["le", "aletter"], spacedLetter),
  (["cr"], carriageReturn),
  (["dq", "doublequote"], .ofLines ["22"]),
  (["extend"], wordExtend),
  (["ex", "extendnumlet"], .ofLines ["5F 202F 203F-2040 2054 FE33-FE34 FE4D-FE4F FF3F"]),
  (["fo", "format"],
    (category "cf").difference
      (.unionAll [.ofLines ["200B-200D"], prependedConcatenationMark, graphemeExtend])),
  (["hl", "hebrewletter"], hebrewLetter),
  (["ka", "katakana"], katakanaAndMarks.difference wordExtend),
  (["lf"], lineFeed),
  (["ml", "midletter"], midLetter),
  (["mn", "midnum"], .ofLines [
    "2C 3B 37E 589 60C-60D 66C 7F8 2044 FE50 FE54 FF0C FF1B"]),
  (["mb", "midnumlet"], midNumberOrLetter),
  (["nl", "newline"], .ofLines ["B-C 85 2028-2029"]),
  (["nu", "numeric"], (category "nd").union numberSigns),
  (["ri", "regionalindicator"], regionalIndicator),
  (["sq", "singlequote"], singleQuote),
  (["wsegspace"], .ofLines ["20 1680 2000-2006 2008-200A 205F 3000"]),
  (["zwj"], zeroWidthJoiner)]

def caseIgnorable : CodePointSet :=
  .unionAll
    [categories ["mn", "me", "cf", "lm", "sk"], midLetter, midNumberOrLetter, singleQuote]

def sentenceExtend : CodePointSet :=
  .unionAll [graphemeExtend, category "mc", zeroWidthJoiner]

def sentenceLower : CodePointSet :=
  lowercase.difference (graphemeExtend.union (.ofLines ["10D0-10FA 10FD-10FF"]))

def sentenceUpper : CodePointSet :=
  ((category "lt").union uppercase).difference (.ofLines ["1C90-1CBF"])

def ambiguousTerminal : CodePointSet := .ofLines ["2E 2024 FE52 FF0E"]

def sentenceBreaks : List (List String × CodePointSet) := [
  (["at", "aterm"], ambiguousTerminal),
  (["cl", "close"],
    ((categories ["ps", "pe", "pi", "pf"]).union
      (.ofLines ["22 27 275B-2760 2E00-2E01 2E06-2E08 2E0B 1F676-1F678"])).difference
      sentenceTerminal),
  (["cr"], carriageReturn),
  (["ex", "extend"], sentenceExtend),
  (["fo", "format"],
    (category "cf").difference
      (.unionAll [zeroWidthJoiner, graphemeExtend,
        prependedConcatenationMark.difference (.ofLines ["70F"])])),
  (["lf"], lineFeed),
  (["lo", "lower"], sentenceLower),
  (["nu", "numeric"], (category "nd").union (numberSigns.union (.ofLines ["66C"]))),
  (["le", "oletter"],
    (alphabetic.union (.ofLines ["5F3"])).difference
      (.unionAll [sentenceLower, sentenceUpper, sentenceExtend])),
  (["sc", "scontinue"], .ofLines [
    "2C-2D 3A-3B 37E 55D 60C-60D 7F8 1802 1808 2013-2014 3001 FE10-FE11 FE13-FE14 FE31-FE32",
    "FE50-FE51 FE54-FE55 FE58 FE63 FF0C-FF0D FF1A-FF1B FF64"]),
  (["st", "sterm"], sentenceTerminal.difference ambiguousTerminal),
  (["se", "sep"], .ofLines ["85 2028-2029"]),
  (["sp"], whiteSpace.difference (.ofLines ["A D 85 2028-2029"])),
  (["up", "upper"], sentenceUpper)]

end TypedPath.Text.Property
