import PageScripts.Request
import PageScripts.Rule.Verdict

/-!
# What rules are for

Rules say when a script is removed from a page, or when one is added to it.  The two purposes
differ only for scripts without rules: those are removed on the pages of visitors, and added
everywhere.
-/

namespace PageScripts

/-- What is done to a script when its rules hold. -/
inductive Purpose
  | removal
  | addition
  deriving DecidableEq, Repr

namespace Purpose

/-- The purposes. -/
def all : List Purpose :=
  [removal, addition]

/-- The word for a purpose. -/
def word : Purpose → String
  | removal => "removal"
  | addition => "addition"

/-- The purpose of a word. -/
def ofWord? (word : String) : Option Purpose :=
  all.find? fun purpose => purpose.word == word

/-- The verdict on a script without rules. -/
def withoutRules : Purpose → Request → Bool
  | removal => Request.isFrontend
  | addition => fun _ => true

/-- The verdict of a script's rules on a request, by the predicates of a registry. -/
def verdict
    (purpose : Purpose)
    (registry : Registry Id Request)
    (rules : Option RuleSet)
    (request : Request) :
    Bool :=
  Id.run (PageScripts.verdict registry purpose.withoutRules request rules)

end Purpose
end PageScripts
