import PageScripts.Fault
import PageScripts.Script.Dependencies
import PageScripts.Script.Strategy

/-!
# Reading fields of stored records

A stored record is an object whose fields may hold anything.  A field is read as a text, a
version, a truth value, a strategy or a whole number, and whatever it holds has a reading,
but for numbers that are no integers at all.
-/

namespace PageScripts
namespace Record

/-- A field; a missing one is null. -/
def field
    (name : String)
    (record : Fields) :
    Json :=
  (record.value? name).getD .null

/-- A field as a text; what does not count as true is the empty text. -/
def textField
    (name : String)
    (record : Fields) :
    String :=
  let value := field name record
  if value.truth then value.display else ""

/-- The version that a stored value means, if it means one. -/
def versionOf (value : Json) : Option String :=
  if value.isVoid then none else some value.display

/-- A field as a version. -/
def versionField
    (name : String)
    (record : Fields) :
    Option String :=
  versionOf (field name record)

/-- A field as a truth value. -/
def flagField
    (name : String)
    (record : Fields) :
    Bool :=
  (field name record).truth

/-- A stored number as an integer; other values mean none. -/
def wholeNumber : Json → Except Fault (Option Int)
  | .int n => .ok (some n)
  | .float x => return some (← (Json.float x).toInt)
  | _ => .ok none

/-- A field as a point in time; a missing one is zero. -/
def timeField
    (name : String)
    (record : Fields) :
    Except Fault Int :=
  return (← wholeNumber (field name record)).getD 0

/-- The record of a handle, which has to be an object. -/
def requireObject
    (handle : String) :
    Json → Except Fault Fields
  | .obj fields => .ok fields
  | other => .error (.recordNotObject handle other.kind)

/-- A version as it is stored by itself. -/
def versionJson : Option String → Json
  | none => .null
  | some v => .str v

/-- A number that may be missing, as it is stored. -/
def numberJson : Option Int → Json
  | none => .null
  | some n => .int n

end Record
end PageScripts
