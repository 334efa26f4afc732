import InputPanel.Pattern.Match
import InputPanel.Pattern.Reader

/-!
# Patterns

Whether a text as a whole is matched by the pattern that another text spells.
-/

namespace InputPanel.Pattern

/-- Whether a pattern, given as text, matches a whole text. -/
def accepts (pattern text : String) : Except Failure Bool := do
  let (pattern, options) ← read pattern.toList
  return pattern.matchesAll options text.toList

end InputPanel.Pattern
