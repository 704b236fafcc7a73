import PageScripts.Json.Value
import PageScripts.Text.Blank
import PageScripts.Text.Pieces

/-!
# Dependencies

The scripts that a script depends on are given as a list of handles or as a text with commas
between them.  Either way the handles are trimmed and empty ones are left out.
-/

namespace PageScripts

/-- Trims handles and leaves out the empty ones. -/
def tidyHandles (handles : List String) : List String :=
  (handles.map Text.trim).filter (· != "")

/-- The handles that a stored value lists; other values list none. -/
def parseDependencies : Json → List String
  | .str s => tidyHandles (Text.split ',' s)
  | .arr items => tidyHandles (items.filterMap Json.text?)
  | _ => []

/-- Dependencies as they are stored: the operator's text, or a list. -/
inductive Dependencies
  | text (value : String)
  | list (handles : List String)
  deriving DecidableEq, Repr

namespace Dependencies

/-- The stored value. -/
def toJson : Dependencies → Json
  | text value => .str value
  | list handles => .arr (handles.map Json.str)

/-- Reads a stored value: a text stays as it is. -/
def ofJson : Json → Dependencies
  | .str value => text value
  | other => list (parseDependencies other)

/-- The handles. -/
def handles (d : Dependencies) : List String :=
  parseDependencies d.toJson

end Dependencies
end PageScripts
