import TypedGraph.Pattern.Parser
import TypedGraph.Schema

/-!
# The engine

Patterns are read by the parser and tried by `Pattern.matchesText`. The engine knows the
sets of characters that `CharSet.named?` and `CharSet.valued?` name. Others, such as the
script extensions and the ages of characters, it refuses as malformed, and it estimates the
memory that a pattern takes by `Pattern.footprint`.
-/
namespace TypedGraph.Pattern

/-- The first line of what is said of a pattern that is refused. -/
def Refusal.diagnosis : Refusal → String
  | malformed => "regex parse error:"
  | tooLarge => "Compiled regex exceeds size limit of " ++ toString footprintLimit ++ " bytes."

instance engine : PatternEngine where
  read s := ((parse s).map matchesText).mapError Refusal.diagnosis

end TypedGraph.Pattern
