/-!
# Condition keys

A condition names a predicate and may negate it.  In the wire format a negated condition has
the tag `__neg:` in front of the name.
-/

namespace PageScripts

/-- The predicate of a condition, and whether it is negated. -/
structure ConditionKey where
  predicate : String
  negated : Bool := false
  deriving DecidableEq, Repr

namespace ConditionKey

/-- The mark of a negated condition. -/
def tag : List Char :=
  "__neg:".toList

/-- Reads a key of the wire format. -/
def parse (raw : String) : ConditionKey :=
  if tag.isPrefixOf raw.toList then
    ⟨String.ofList (raw.toList.drop tag.length), true⟩
  else
    ⟨raw, false⟩

/-- The key in the wire format. -/
def wire (key : ConditionKey) : String :=
  if key.negated then
    String.ofList (tag ++ key.predicate.toList)
  else
    key.predicate

/-- The key for people. -/
def display (key : ConditionKey) : String :=
  if key.negated then "NOT " ++ key.predicate else key.predicate

/-- Writing undoes reading. -/
@[simp]
theorem wire_parse (raw : String) :
    (parse raw).wire = raw := by
  unfold parse
  split
  · next h =>
      obtain ⟨rest, hrest⟩ := List.isPrefixOf_iff_prefix.mp h
      have hdrop : (raw.toList.drop tag.length) = rest := by simp [← hrest]
      simp only [wire, if_true, hdrop, String.toList_ofList, hrest, String.ofList_toList]
  · simp [wire]

/-- Reading undoes writing, unless a plain predicate's name starts with the tag. -/
theorem parse_wire
    (key : ConditionKey)
    (h : key.negated = true ∨ tag.isPrefixOf key.predicate.toList = false) :
    parse key.wire = key := by
  obtain ⟨predicate, negated⟩ := key
  cases negated with
  | true =>
      have hp : tag.isPrefixOf (tag ++ predicate.toList) = true :=
        List.isPrefixOf_iff_prefix.mpr (List.prefix_append _ _)
      simp [parse, wire, hp]
  | false =>
      simp only [Bool.false_eq_true, false_or] at h
      simp [parse, wire, h]

end ConditionKey
end PageScripts
