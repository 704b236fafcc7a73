import PageScripts.Catalog.Transitions
import PageScripts.Proofs.Listing

/-!
# Taking records out of a catalog

Handles are taken out one after another; some may be unknown, and some may be named more than once.

* `left_takeOut`: what is left is the records of all other handles, in their order.
* `handles_takeOut`: the report names the handles whose record is counted, each where it is named
  first.
-/

namespace PageScripts
namespace Catalog

/-- The handle has a record that is counted when it is taken out: one that is not null. -/
def counts
    (records : Fields)
    (handle : String) :
    Bool :=
  match records.value? handle with
  | none => false
  | some record => record ≠ .null

variable (records : Fields)
variable (handles : List String)
variable {first : String}

theorem counts_of_value?
    {handle : String}
    {record : Json}
    (h : records.value? handle = some record) :
    counts records handle = decide (record ≠ .null) := by
  simp only [counts, h]

/-- What has been taken out is not counted once more. -/
theorem counts_without (handle : String) :
    counts (records.without first) handle = (!handle == first && counts records handle) := by
  unfold counts
  rw [Listing.value?_without]
  by_cases hfirst : first = handle
  · simp [hfirst]
  · simp [hfirst, Ne.symm hfirst]

/-- Whether or not the first handle is there, the rest is taken out of the other records. -/
theorem takeOut_cons_left :
    (takeOut (first :: handles) records).1 = (takeOut handles (records.without first)).1 := by
  cases hvalue : records.value? first with
  | none =>
      have hother : ∀ entry ∈ records, decide (entry.1 ≠ first) = true := by
        intro entry hmem
        have habsent := (Listing.value?_eq_none_iff first records).mp hvalue
        refine decide_eq_true fun heq => habsent ?_
        exact heq ▸ Listing.mem_keys_of_mem hmem
      have hsame : records.without first = records := by
        rw [Listing.without_eq_filter, List.filter_eq_self.mpr hother]
      simp only [takeOut, hvalue, hsame]
  | some record =>
      simp only [takeOut, hvalue]

/-- The records of all other handles are left. -/
theorem left_takeOut :
    (takeOut handles records).1 = records.filter fun entry => entry.1 ∉ handles := by
  induction handles generalizing records with
  | nil =>
      simp [takeOut]
  | cons first rest ih =>
      rw [takeOut_cons_left, ih, Listing.without_eq_filter, List.filter_filter]
      simp [Bool.and_comm]

/-- The handles that are counted are reported, each where it is named first. -/
theorem handles_takeOut :
    (takeOut handles records).2 = (handles.filter (counts records)).eraseDups := by
  induction handles generalizing records with
  | nil =>
      rfl
  | cons first rest ih =>
      cases hvalue : records.value? first with
      | none =>
          have hnot : counts records first = false := by simp only [counts, hvalue]
          simp only [takeOut, hvalue, ih, List.filter_cons, hnot, Bool.false_eq_true, if_false]
      | some record =>
          have hcounts := counts_of_value? records hvalue
          by_cases hnull : record = .null
          · -- A null record goes without being counted, and it would not have been counted later on.
            have hnot : counts records first = false := by simpa [hnull] using hcounts
            have hrest : ∀ handle, counts (records.without first) handle = counts records handle := by
              intro handle
              rw [counts_without]
              by_cases hfirst : handle = first
              · simp [hfirst, hnot]
              · simp [hfirst]
            simp only [takeOut, hvalue, ih, hnull, if_true, List.filter_cons, hnot,
              Bool.false_eq_true, if_false, funext hrest]
          · have hfirst : counts records first = true := by simpa [hnull] using hcounts
            rw [eraseDups_filter_cons hfirst (counts_without records)]
            simp only [takeOut, hvalue, ih, if_neg hnull]

/-- A handle that was not named keeps what stands under it, and one that was named has nothing. -/
theorem value?_left_takeOut (handle : String) :
    (takeOut handles records).1.value? handle =
      if handle ∈ handles then none else records.value? handle := by
  rw [left_takeOut, Listing.value?_filter fun key => decide (key ∉ handles)]
  by_cases hnamed : handle ∈ handles <;> simp [hnamed]

end Catalog
end PageScripts
