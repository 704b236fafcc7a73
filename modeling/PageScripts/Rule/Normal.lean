import PageScripts.Rule.RuleSet
import PageScripts.Text.Case

/-!
# The normal form of a rule set

Before rules are validated and stored, blanks are taken off the ends of keys and of texts
among the arguments, and the mode is put into lower case.  When two keys become the same, the
later one's argument stays in the earlier one's place.
-/

namespace PageScripts

/-- The normal form of one argument: texts are trimmed, in a list too. -/
def normalArgument : Json → Json
  | .str s => .str (Text.trim s)
  | .arr items =>
      .arr (items.map fun item =>
        match item with
        | .str s => .str (Text.trim s)
        | other => other)
  | other => other

/-- The normal form of a stored mode. -/
def normalMode : Json → Json
  | .str s => .str (Text.lower (Text.trim s))
  | other => other

/-- The normal form of one member of the wire object. -/
def normalEntry (entry : String × Json) : String × Json :=
  let key := Text.trim entry.1
  if key = modeKey then
    (key, normalMode entry.2)
  else
    (key, normalArgument entry.2)

/-- The normal form of a wire object. -/
def normalRules (fields : Fields) : Fields :=
  Listing.ofEntries (fields.map normalEntry)

end PageScripts
