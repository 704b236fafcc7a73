import PageScripts.Proofs.Catalog.Plan
import PageScripts.Proofs.Listing

/-!
# The fields of the records that operations write

A record is written when a script is moved, added or edited.  Of each such record it is said here
what stands under any name, so that nothing else has to look at how it is put together.
-/

namespace PageScripts
namespace Catalog

variable (name : String)
variable (now : Int)

/-- Some named members of an object. -/
theorem value?_picked
    (names : List String)
    (record : Fields) :
    Listing.value? name
        (names.filterMap fun key => (record.value? key).map fun value => (key, value)) =
      if name ∈ names then record.value? name else none := by
  induction names with
  | nil =>
      rfl
  | cons key rest ih =>
      cases hvalue : record.value? key with
      | none =>
          by_cases hkey : name = key
          · subst hkey
            simp [hvalue, ih]
          · simp [hvalue, ih, hkey]
      | some value =>
          by_cases hkey : key = name
          · subst hkey
            simp [hvalue, Listing.value?]
          · have hkey' : name ≠ key := Ne.symm hkey
            simp [hvalue, Listing.value?, ih, hkey, hkey']

theorem value?_editable (record : Fields) :
    (editable record).value? name =
      if name ∈ manualFields then record.value? name else none :=
  value?_picked name manualFields record

/-- A moved record has new rules and a time, and is left in all else. -/
theorem value?_movedRecord (record : Fields) :
    (movedRecord now record).value? name =
      if name = "rules" then some (.obj defaultRules)
      else if name = ManagedCatalog.removed.timeKey then some (.int now)
      else record.value? name := by
  simp only [movedRecord, Listing.value?_put, eq_comm (b := name)]

/-- An added record has what the form says, and a time. -/
theorem value?_addedRecord (form : Fields) :
    (addedRecord form now).value? name =
      if name = ManagedCatalog.manual.timeKey then some (.int now)
      else if name ∈ manualFields then form.value? name
      else none := by
  simp only [addedRecord, Listing.value?_put, value?_editable, eq_comm (b := name)]

/-- An edited record has what the form says, and the rules and the time that it had. -/
theorem value?_editedRecord (current form : Fields) :
    (editedRecord current form now).value? name =
      if name = "updated_on" then some (.int now)
      else if name = ManagedCatalog.manual.timeKey then
        some ((current.value? ManagedCatalog.manual.timeKey).getD (.int now))
      else if name = "rules" then current.value? "rules"
      else if name ∈ manualFields then form.value? name
      else none := by
  have hrules : "rules" ∉ manualFields := by decide
  unfold editedRecord
  simp only [Listing.value?_put, eq_comm (b := name)]
  cases hcurrent : current.value? "rules" with
  | none =>
      by_cases hname : name = "rules"
      · subst hname
        simp [value?_editable, hrules]
      · simp [value?_editable, hname]
  | some rules =>
      simp only [Listing.value?_put, value?_editable, eq_comm (b := name)]

end Catalog
end PageScripts
