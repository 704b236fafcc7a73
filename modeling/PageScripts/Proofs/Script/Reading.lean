import Mathlib.Algebra.GroupWithZero.Nat
import PageScripts.Proofs.Text.Blank
import PageScripts.Script.Managed

/-!
# How the fields of a script are read

* `versionOf_eq`: what a stored version means is said without the comparison of values by which it
  is found out.
* `handles_ofJson`: handles that are tidied once more stay as they are, so it does not matter
  whether dependencies are stored as a text or as a list.
-/

namespace PageScripts

section Versions

/-- The value means that there is no version: null, the empty text, false, or zero. -/
def Json.NoVersion : Json → Prop
  | .null => True
  | .str s => s = ""
  | .bool b => b = false
  | .int n => n = 0
  | .float x => x.isZero = true
  | .arr _ => False
  | .obj _ => False

instance : DecidablePred Json.NoVersion
  | .null => .isTrue trivial
  | .str s => inferInstanceAs (Decidable (s = ""))
  | .bool b => inferInstanceAs (Decidable (b = false))
  | .int n => inferInstanceAs (Decidable (n = 0))
  | .float x => inferInstanceAs (Decidable (x.isZero = true))
  | .arr _ => .isFalse id
  | .obj _ => .isFalse id

/-- A double is the integer zero if it is one of the two zeros. -/
theorem Binary64.isInt_zero (x : Binary64) :
    x.isInt 0 = x.isZero := by
  cases x with
  | finite negative significand exponent =>
      by_cases hsign : 0 ≤ exponent
      · simp [isInt, isZero, magnitude, Number.Ratio.scaled, hsign]
      · simp [isInt, isZero, magnitude, Number.Ratio.scaled, hsign]
  | infinite negative =>
      rfl
  | nan =>
      rfl

theorem Json.isVoid_iff (value : Json) :
    value.isVoid = true ↔ value.NoVersion := by
  unfold isVoid NoVersion
  cases value <;> simp [sameAs, Binary64.isInt_zero]

/-- The version that a stored value means. -/
theorem versionOf_eq (value : Json) :
    Record.versionOf value = if value.NoVersion then none else some value.display := by
  unfold Record.versionOf
  simp only [Json.isVoid_iff]

end Versions

section Dependencies

/-- Tidy handles are left as they are. -/
theorem tidyHandles_tidyHandles (handles : List String) :
    tidyHandles (tidyHandles handles) = tidyHandles handles := by
  have hsame : (tidyHandles handles).map Text.trim = tidyHandles handles := by
    refine (List.map_congr_left fun handle hmem => ?_).trans (List.map_id _)
    obtain ⟨raw, -, rfl⟩ := List.mem_map.mp (List.mem_filter.mp hmem).1
    exact Text.trim_trim raw
  rw [tidyHandles, hsame, tidyHandles, List.filter_filter]
  simp only [Bool.and_self]

theorem filterMap_text?_str (handles : List String) :
    (handles.map Json.str).filterMap Json.text? = handles := by
  rw [List.filterMap_map]
  exact List.filterMap_some

/-- A list of handles lists these, tidied. -/
theorem parseDependencies_list (handles : List String) :
    parseDependencies (.arr (handles.map .str)) = tidyHandles handles := by
  rw [parseDependencies, filterMap_text?_str]

theorem parseDependencies_empty :
    parseDependencies (.str "") = [] := by
  decide

/-- Dependencies name the same handles after they have been read as a stored value. -/
theorem handles_ofJson (value : Json) :
    (Dependencies.ofJson value).handles = parseDependencies value := by
  cases value with
  | arr items =>
      exact (parseDependencies_list _).trans (tidyHandles_tidyHandles _)
  | _ =>
      rfl

end Dependencies

end PageScripts
