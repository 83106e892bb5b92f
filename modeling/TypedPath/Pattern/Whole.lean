import TypedPath.Pattern.Footprint
import TypedPath.Pattern.Meaning
import TypedPath.Pattern.Reader

/-! Patterns that match texts as a whole. -/

namespace TypedPath.Pattern

def parse? (source : String) : Option Pattern := do
  let written ← read? source
  let (pattern, _) ← written.meaning? .standard
  if pattern.fits then some pattern else none

/-- The pattern that matches texts as a whole: the source is put in a group between anchors. -/
def whole? (source : String) : Option Pattern := parse? ("^(?:" ++ source ++ ")$")

end TypedPath.Pattern
