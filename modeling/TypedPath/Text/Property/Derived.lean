import TypedPath.Text.Property.Binary
import TypedPath.Text.Property.Category

/-! Properties that follow from categories and listed properties. -/

namespace TypedPath.Text.Property

def alphabetic : CodePointSet :=
  (categories ["lu", "ll", "lt", "lm", "lo", "nl"]).union otherAlphabetic

def lowercase : CodePointSet := (category "ll").union otherLowercase

def uppercase : CodePointSet := (category "lu").union otherUppercase

def cased : CodePointSet := .unionAll [lowercase, uppercase, category "lt"]

def math : CodePointSet := (category "sm").union otherMath

def graphemeExtend : CodePointSet := (categories ["mn", "me"]).union otherGraphemeExtend

def graphemeBase : CodePointSet :=
  ((categories ["cc", "cf", "co", "cn", "zl", "zp"]).union graphemeExtend).complement

def idStart : CodePointSet :=
  ((categories ["lu", "ll", "lt", "lm", "lo", "nl"]).union otherIdStart).difference
    (patternSyntax.union patternWhiteSpace)

def idContinue : CodePointSet :=
  (CodePointSet.unionAll
    [idStart, categories ["mn", "mc", "nd", "pc"], otherIdContinue]).difference
    (patternSyntax.union patternWhiteSpace)

/-- Characters that a normal form takes apart in a way that identifiers do not allow. -/
def unstableInIdentifiers : CodePointSet := .ofLines [
  "37A 309B-309C FC5E-FC63 FDFA-FDFB FE70-FE7E/2"]

def xidStart : CodePointSet :=
  idStart.difference (unstableInIdentifiers.union (.ofLines ["E33 EB3 FF9E-FF9F"]))

def xidContinue : CodePointSet := idContinue.difference unstableInIdentifiers

def defaultIgnorable : CodePointSet :=
  (CodePointSet.unionAll [otherDefaultIgnorable, category "cf", variationSelector]).difference
    (.unionAll [whiteSpace, .ofLines ["FFF9-FFFB 13430-1343F"], prependedConcatenationMark])

def changesWhenCasemapped : CodePointSet :=
  .unionAll [changesWhenLowercased, changesWhenUppercased, changesWhenTitlecased]

/-- Characters that words are made of: letters and other alphabetic characters, marks, decimal
digits, connectors and the two join controls. -/
def wordCharacters : CodePointSet :=
  .unionAll [alphabetic, categories ["mn", "mc", "me", "nd", "pc"], joinControl]

end TypedPath.Text.Property
