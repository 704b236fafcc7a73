import Mathlib.Data.List.Induction
import Mathlib.Data.List.Nodup
import Mathlib.Data.List.Perm.Subperm
import PageScripts.Listing

/-!
# More on listings

Which keys a listing has after changes, and what it means that no key stands twice.

* `mem_keys_put`, `mem_keys_without`: the keys after a change; `mem_put`, `mem_without`: the entries.
* `distinct_put`, `distinct_without`, `distinct_ofEntries`: changes keep the keys distinct.
* `ofEntries_of_distinct`: entries with distinct keys are already a listing.
* `value?_eq_some_iff`: under distinct keys, a value stands under its key exactly when the
  entry is there.
* `put_of_value?`: to write what is there already changes nothing; `put_put`: of two writes under one
  key the later one counts.
* `ext_of_value?`: the keys and the view are all there is to a listing with distinct keys.
* `assign` is either of the two changes, and `value?_assign` says what it does to the view.
* `value?_putAll`, `value?_filter`: the view after many changes, and of some of the keys;
  `filter_putAll`, `filter_assign`: changes elsewhere leave these.
* `value?_ofEntries`, `keys_ofEntries`, `filter_ofEntries`, `length_ofEntries_iff`: what becomes of
  entries that may repeat keys.
* `nodup_eraseDups`, `eraseDups_filter_cons`: keys that may be named more than once, each counted
  where it is named first.
-/

namespace PageScripts

section Named

variable {κ : Type} [BEq κ] [LawfulBEq κ]

theorem nodup_eraseDups (named : List κ) :
    named.eraseDups.Nodup := by
  match named with
  | [] =>
      exact List.nodup_nil
  | first :: rest =>
      have hshorter := List.length_filter_le (fun key => !key == first) rest
      rw [List.eraseDups_cons, List.nodup_cons]
      refine ⟨?_, nodup_eraseDups _⟩
      simp [List.mem_eraseDups]
termination_by named.length
decreasing_by simp only [List.length_cons]; omega

omit [LawfulBEq κ] in
/-- The first key goes before those of the rest that differ from it. -/
theorem eraseDups_filter_cons
    {test later : κ → Bool}
    {first : κ}
    (hfirst : test first = true)
    (hlater : ∀ key, later key = (!key == first && test key))
    (rest : List κ) :
    ((first :: rest).filter test).eraseDups = first :: (rest.filter later).eraseDups := by
  simp only [List.filter_cons, hfirst, if_true, List.eraseDups_cons, List.filter_filter,
    funext hlater]

end Named

namespace Listing

universe u v

variable {κ : Type u} {α : Type v} [DecidableEq κ]

theorem mem_keys_put
    (key other : κ)
    (value : α)
    (entries : Listing κ α) :
    other ∈ (put key value entries).keys ↔ other = key ∨ other ∈ entries.keys := by
  rw [keys_put]
  by_cases h : key ∈ entries.keys
  · rw [if_pos h]
    constructor
    · exact Or.inr
    · rintro (rfl | hother)
      · exact h
      · exact hother
  · rw [if_neg h, List.mem_append, List.mem_singleton]
    exact Or.comm

theorem mem_keys_without
    (key other : κ)
    (entries : Listing κ α) :
    other ∈ (without key entries).keys ↔ other ≠ key ∧ other ∈ entries.keys := by
  rw [keys_without, List.mem_filter]
  simp [And.comm]

theorem mem_put
    {key : κ}
    {value : α}
    {entry : κ × α}
    {entries : Listing κ α}
    (h : entry ∈ put key value entries) :
    entry = (key, value) ∨ entry ∈ entries := by
  induction entries with
  | nil =>
      exact .inl (List.mem_singleton.mp h)
  | cons first rest ih =>
      obtain ⟨k, a⟩ := first
      by_cases hk : k = key
      · subst hk
        simp only [put, if_true, List.mem_cons] at h ⊢
        exact h.imp_right .inr
      · simp only [put, if_neg hk, List.mem_cons] at h ⊢
        rcases h with rfl | h
        · exact .inr (.inl rfl)
        · exact (ih h).imp_right .inr

theorem mem_without
    {key : κ}
    {entry : κ × α}
    {entries : Listing κ α}
    (h : entry ∈ without key entries) :
    entry ∈ entries := by
  induction entries with
  | nil =>
      exact h
  | cons first rest ih =>
      obtain ⟨k, a⟩ := first
      by_cases hk : k = key
      · simp only [without, if_pos hk] at h
        exact List.mem_cons_of_mem _ (ih h)
      · simp only [without, if_neg hk, List.mem_cons] at h
        rcases h with rfl | h
        · exact List.mem_cons_self
        · exact List.mem_cons_of_mem _ (ih h)

theorem mem_putAll
    {entry : κ × α}
    {entries : Listing κ α}
    {news : List (κ × α)}
    (h : entry ∈ putAll entries news) :
    entry ∈ entries ∨ entry ∈ news := by
  induction news generalizing entries with
  | nil =>
      exact .inl h
  | cons first rest ih =>
      rcases ih h with hput | hrest
      · rcases mem_put hput with rfl | hold
        · exact .inr List.mem_cons_self
        · exact .inl hold
      · exact .inr (List.mem_cons_of_mem _ hrest)

theorem mem_of_value?
    {key : κ}
    {value : α}
    {entries : Listing κ α}
    (h : entries.value? key = some value) :
    (key, value) ∈ entries := by
  induction entries with
  | nil =>
      cases h
  | cons entry rest ih =>
      obtain ⟨k, a⟩ := entry
      by_cases hk : k = key
      · subst hk
        simp only [value?, if_true, Option.some.injEq] at h
        subst h
        exact List.mem_cons_self
      · simp only [value?, hk, if_false] at h
        exact List.mem_cons_of_mem _ (ih h)

omit [DecidableEq κ] in
theorem mem_keys_of_mem
    {key : κ}
    {value : α}
    {entries : Listing κ α}
    (h : (key, value) ∈ entries) :
    key ∈ entries.keys :=
  List.mem_map_of_mem h

theorem mem_keys_of_value?
    {key : κ}
    {value : α}
    {entries : Listing κ α}
    (h : entries.value? key = some value) :
    key ∈ entries.keys :=
  mem_keys_of_mem (mem_of_value? h)

theorem exists_value?_of_mem_keys
    {key : κ}
    {entries : Listing κ α}
    (h : key ∈ entries.keys) :
    ∃ value, entries.value? key = some value := by
  cases hvalue : entries.value? key with
  | none =>
      exact absurd h ((value?_eq_none_iff key entries).mp hvalue)
  | some value =>
      exact ⟨value, rfl⟩

theorem value?_eq_some_iff
    {key : κ}
    {value : α}
    {entries : Listing κ α}
    (distinct : entries.Distinct) :
    entries.value? key = some value ↔ (key, value) ∈ entries := by
  refine ⟨mem_of_value?, ?_⟩
  intro hmem
  induction entries with
  | nil =>
      cases hmem
  | cons entry rest ih =>
      obtain ⟨k, a⟩ := entry
      obtain ⟨hfresh, hrest⟩ := List.nodup_cons.mp distinct
      rcases List.mem_cons.mp hmem with heq | hmem
      · cases heq
        simp [value?]
      · have hk : k ≠ key := by
          rintro rfl
          exact hfresh (mem_keys_of_mem hmem)
        simp only [value?, hk, if_false]
        exact ih hrest hmem

omit [DecidableEq κ] in
theorem mem_of_mem_keys
    {key : κ}
    {entries : Listing κ α}
    (h : key ∈ entries.keys) :
    ∃ value, (key, value) ∈ entries := by
  obtain ⟨⟨_, value⟩, hmem, rfl⟩ := List.mem_map.mp h
  exact ⟨value, hmem⟩

theorem value?_append
    (key : κ)
    (first second : Listing κ α) :
    value? key (first ++ second) = (first.value? key).or (second.value? key) := by
  induction first with
  | nil =>
      rfl
  | cons entry rest ih =>
      obtain ⟨k, a⟩ := entry
      by_cases hk : k = key
      · simp [value?, hk]
      · simpa [value?, hk] using ih

theorem distinct_put
    {entries : Listing κ α}
    (distinct : entries.Distinct)
    (key : κ)
    (value : α) :
    (put key value entries).Distinct := by
  unfold Distinct at *
  rw [keys_put]
  by_cases h : key ∈ entries.keys
  · rw [if_pos h]
    exact distinct
  · rw [if_neg h, List.nodup_append]
    refine ⟨distinct, List.nodup_singleton key, ?_⟩
    rintro other hother _ hkey rfl
    rw [List.mem_singleton.mp hkey] at hother
    exact h hother

theorem distinct_without
    {entries : Listing κ α}
    (distinct : entries.Distinct)
    (key : κ) :
    (without key entries).Distinct := by
  unfold Distinct at *
  rw [keys_without]
  exact distinct.filter _

theorem distinct_putAll
    {entries : Listing κ α}
    (distinct : entries.Distinct)
    (news : List (κ × α)) :
    (putAll entries news).Distinct := by
  induction news generalizing entries with
  | nil =>
      exact distinct
  | cons entry rest ih =>
      exact ih (distinct_put distinct entry.1 entry.2)

theorem distinct_ofEntries (entries : List (κ × α)) :
    (ofEntries entries).Distinct :=
  distinct_putAll (show Distinct [] from List.nodup_nil) entries

theorem mem_keys_putAll
    (key : κ)
    (entries : Listing κ α)
    (news : List (κ × α)) :
    key ∈ (putAll entries news).keys ↔ key ∈ entries.keys ∨ key ∈ keys news := by
  induction news generalizing entries with
  | nil =>
      simp [putAll, keys]
  | cons entry rest ih =>
      have htail := ih (put entry.1 entry.2 entries)
      unfold putAll at htail ⊢
      rw [List.foldl_cons, htail, mem_keys_put]
      simp only [keys, List.map_cons, List.mem_cons]
      tauto

theorem mem_keys_ofEntries
    (key : κ)
    (entries : List (κ × α)) :
    key ∈ (ofEntries entries).keys ↔ key ∈ keys entries := by
  rw [ofEntries, mem_keys_putAll]
  simp [keys]

theorem put_of_not_mem
    {key : κ}
    (value : α)
    {entries : Listing κ α}
    (h : key ∉ entries.keys) :
    put key value entries = entries ++ [(key, value)] := by
  induction entries with
  | nil =>
      rfl
  | cons entry rest ih =>
      obtain ⟨k, a⟩ := entry
      obtain ⟨hk, hrest⟩ := not_or.mp (mt List.mem_cons.mpr h)
      have hne : k ≠ key := fun heq => hk heq.symm
      simp only [put, hne, if_false, ih hrest, List.cons_append]

/-- To write what is there already changes nothing. -/
theorem put_of_value?
    {key : κ}
    {value : α}
    {entries : Listing κ α}
    (h : entries.value? key = some value) :
    put key value entries = entries := by
  induction entries with
  | nil =>
      cases h
  | cons entry rest ih =>
      obtain ⟨k, a⟩ := entry
      by_cases hk : k = key
      · simp only [value?, if_pos hk, Option.some.injEq] at h
        simp only [put, if_pos hk, h]
      · simp only [value?, if_neg hk] at h
        simp only [put, if_neg hk, ih h]

/-- Of two writes under one key the later one counts. -/
theorem put_put
    (key : κ)
    (first second : α)
    (entries : Listing κ α) :
    put key second (put key first entries) = put key second entries := by
  induction entries with
  | nil =>
      simp [put]
  | cons entry rest ih =>
      obtain ⟨k, a⟩ := entry
      by_cases hk : k = key
      · simp [put, hk]
      · simp only [put, if_neg hk, ih]

theorem putAll_of_distinct
    {entries : Listing κ α}
    {news : List (κ × α)}
    (distinct : Distinct (entries ++ news)) :
    putAll entries news = entries ++ news := by
  induction news generalizing entries with
  | nil =>
      simp [putAll]
  | cons entry rest ih =>
      have hfresh : entry.1 ∉ entries.keys := by
        intro hmem
        unfold Distinct keys at distinct
        rw [List.map_append, List.nodup_append] at distinct
        exact distinct.2.2 _ hmem _ (List.mem_map_of_mem List.mem_cons_self) rfl
      have hput := put_of_not_mem entry.2 hfresh
      have hassoc : entries ++ entry :: rest = entries ++ [entry] ++ rest := by simp
      rw [hassoc] at distinct ⊢
      have htail := ih distinct
      unfold putAll at htail ⊢
      rw [List.foldl_cons, hput]
      exact htail

theorem ofEntries_of_distinct
    {entries : List (κ × α)}
    (distinct : Distinct entries) :
    ofEntries entries = entries :=
  putAll_of_distinct distinct

/-- The entries of a key that stands once at most. -/
theorem filter_key
    {entries : Listing κ α}
    (distinct : entries.Distinct)
    (key : κ) :
    (entries.filter fun entry => entry.1 == key) =
      ((entries.value? key).map fun value => (key, value)).toList := by
  induction entries with
  | nil =>
      rfl
  | cons entry rest ih =>
      obtain ⟨k, a⟩ := entry
      obtain ⟨hfresh, hrest⟩ := List.nodup_cons.mp distinct
      have htail := ih hrest
      by_cases hk : k = key
      · subst hk
        rw [(value?_eq_none_iff k rest).mpr hfresh] at htail
        simpa [value?] using htail
      · simpa [value?, hk] using htail

/-- Two listings with the same keys in the same order and the same values under them are one. -/
theorem ext_of_value?
    {first second : Listing κ α}
    (distinct : first.Distinct)
    (hkeys : first.keys = second.keys)
    (hvalues : ∀ key, first.value? key = second.value? key) :
    first = second := by
  induction first generalizing second with
  | nil =>
      exact (List.map_eq_nil_iff.mp hkeys.symm).symm
  | cons entry rest ih =>
      obtain ⟨key, value⟩ := entry
      cases second with
      | nil =>
          cases hkeys
      | cons entry others =>
          obtain ⟨head, other⟩ := entry
          obtain ⟨rfl, htail⟩ : key = head ∧ keys rest = keys others := List.cons.inj hkeys
          obtain ⟨hfresh, hrest⟩ := List.nodup_cons.mp distinct
          have hvalue := hvalues key
          simp only [value?, if_true, Option.some.injEq] at hvalue
          subst hvalue
          refine congrArg (List.cons _) (ih hrest htail fun one => ?_)
          by_cases hone : key = one
          · -- Below its place the key stands in neither of the two.
            subst hone
            have hfresh' : key ∉ keys others := htail ▸ hfresh
            rw [(value?_eq_none_iff key rest).mpr hfresh,
              (value?_eq_none_iff key others).mpr hfresh']
          · have hone' := hvalues one
            simpa only [value?, if_neg hone] using hone'

/-- Writes a value under a key, or leaves the key out if there is none. -/
def assign
    (key : κ)
    (value : Option α)
    (entries : Listing κ α) :
    Listing κ α :=
  match value with
  | some value => put key value entries
  | none => without key entries

theorem value?_assign
    (key other : κ)
    (value : Option α)
    (entries : Listing κ α) :
    value? other (assign key value entries) =
      if key = other then value else value? other entries := by
  cases value with
  | none =>
      exact value?_without key other entries
  | some value =>
      exact value?_put key other value entries

/-- Of entries with distinct keys each is what stands under its key after they are written. -/
theorem value?_putAll
    {news : List (κ × α)}
    (distinct : Distinct news)
    (key : κ)
    (entries : Listing κ α) :
    value? key (putAll entries news) = (value? key news).or (value? key entries) := by
  induction news generalizing entries with
  | nil =>
      rfl
  | cons entry rest ih =>
      obtain ⟨k, a⟩ := entry
      obtain ⟨hfresh, hrest⟩ := List.nodup_cons.mp distinct
      have htail := ih hrest (put k a entries)
      rw [value?_put] at htail
      refine htail.trans ?_
      by_cases hk : k = key
      · subst hk
        simp [value?, (value?_eq_none_iff k rest).mpr hfresh]
      · simp [value?, hk]

/-- A key is left out by keeping the entries of all others. -/
theorem without_eq_filter
    (key : κ)
    (entries : Listing κ α) :
    without key entries = entries.filter fun entry => entry.1 ≠ key := by
  induction entries with
  | nil =>
      rfl
  | cons entry rest ih =>
      obtain ⟨k, a⟩ := entry
      by_cases hk : k = key
      · simp [without, hk, ih]
      · simp [without, hk, ih]

theorem value?_filter
    (test : κ → Bool)
    (key : κ)
    (entries : Listing κ α) :
    value? key (entries.filter fun entry => test entry.1) =
      if test key then value? key entries else none := by
  induction entries with
  | nil =>
      simp
  | cons entry rest ih =>
      obtain ⟨k, a⟩ := entry
      by_cases hk : k = key
      · subst hk
        cases htest : test k <;> simp [htest, value?, ih]
      · cases htest : test k <;> simp [htest, value?, hk, ih]

theorem filter_put
    {test : κ → Bool}
    {key : κ}
    (h : test key = false)
    (value : α)
    (entries : Listing κ α) :
    (put key value entries).filter (fun entry => test entry.1) =
      entries.filter fun entry => test entry.1 := by
  induction entries with
  | nil =>
      simp [put, h]
  | cons entry rest ih =>
      obtain ⟨k, a⟩ := entry
      by_cases hk : k = key
      · subst hk
        simp [put, h]
      · simp only [put, hk, if_false, List.filter_cons, ih]

theorem filter_without
    {test : κ → Bool}
    {key : κ}
    (h : test key = false)
    (entries : Listing κ α) :
    (without key entries).filter (fun entry => test entry.1) =
      entries.filter fun entry => test entry.1 := by
  induction entries with
  | nil =>
      rfl
  | cons entry rest ih =>
      obtain ⟨k, a⟩ := entry
      by_cases hk : k = key
      · subst hk
        simp [without, h, ih]
      · simp only [without, hk, if_false, List.filter_cons, ih]

theorem filter_assign
    {test : κ → Bool}
    {key : κ}
    (h : test key = false)
    (value : Option α)
    (entries : Listing κ α) :
    (assign key value entries).filter (fun entry => test entry.1) =
      entries.filter fun entry => test entry.1 := by
  cases value with
  | none =>
      exact filter_without h entries
  | some value =>
      exact filter_put h value entries

theorem filter_putAll
    {test : κ → Bool}
    {news : List (κ × α)}
    (h : ∀ entry ∈ news, test entry.1 = false)
    (entries : Listing κ α) :
    (putAll entries news).filter (fun entry => test entry.1) =
      entries.filter fun entry => test entry.1 := by
  induction news generalizing entries with
  | nil =>
      rfl
  | cons entry rest ih =>
      obtain ⟨hfirst, hrest⟩ := List.forall_mem_cons.mp h
      exact (ih hrest (put entry.1 entry.2 entries)).trans (filter_put hfirst entry.2 entries)

theorem ofEntries_concat
    (entries : List (κ × α))
    (last : κ × α) :
    ofEntries (entries ++ [last]) = put last.1 last.2 (ofEntries entries) := by
  simp [ofEntries, putAll]

/-- Of the entries of a key the last one counts. -/
theorem value?_ofEntries
    (key : κ)
    (entries : List (κ × α)) :
    value? key (ofEntries entries) = value? key entries.reverse := by
  induction entries using List.reverseRecOn with
  | nil =>
      rfl
  | append_singleton entries last ih =>
      obtain ⟨k, a⟩ := last
      rw [ofEntries_concat, value?_put, ih, List.reverse_append]
      simp [value?]

/-- The place of a key is that of its first entry. -/
theorem keys_ofEntries (entries : List (κ × α)) :
    (ofEntries entries).keys = (keys entries).eraseDups := by
  induction entries using List.reverseRecOn with
  | nil =>
      rfl
  | append_singleton entries last ih =>
      have hkeys : keys (entries ++ [last]) = keys entries ++ [last.1] := by simp [keys]
      rw [ofEntries_concat, keys_put, ih, hkeys, List.eraseDups_append]
      by_cases hold : last.1 ∈ keys entries
      · simp [hold, List.removeAll]
      · simp [hold, List.removeAll, List.eraseDups_cons]

/-- Some of the keys can be singled out before or after the entries are written. -/
theorem filter_ofEntries
    (test : κ → Bool)
    (entries : List (κ × α)) :
    (ofEntries entries).filter (fun entry => test entry.1) =
      ofEntries (entries.filter fun entry => test entry.1) := by
  have hput (key : κ) (value : α) (kept : Listing κ α) (hkey : test key = true) :
      (put key value kept).filter (fun entry => test entry.1) =
        put key value (kept.filter fun entry => test entry.1) := by
    induction kept with
    | nil =>
        simp [put, hkey]
    | cons entry rest ih =>
        obtain ⟨k, a⟩ := entry
        by_cases hk : k = key
        · subst hk
          simp [put, hkey]
        · cases htest : test k <;> simp [put, hk, htest, ih]
  induction entries using List.reverseRecOn with
  | nil =>
      rfl
  | append_singleton entries last ih =>
      rw [ofEntries_concat, List.filter_append]
      cases hlast : test last.1 with
      | true =>
          rw [hput _ _ _ hlast, ih, ← ofEntries_concat]
          simp [hlast]
      | false =>
          rw [filter_put hlast, ih]
          simp [hlast]

/-- No entry gets lost exactly if no key stands twice. -/
theorem length_ofEntries_iff (entries : List (κ × α)) :
    (ofEntries entries).length = entries.length ↔ Distinct entries := by
  constructor
  · intro hlength
    have hsub : (ofEntries entries).keys.Subperm (keys entries) :=
      List.subperm_of_subset (distinct_ofEntries entries) fun key hkey => (mem_keys_ofEntries key entries).mp hkey
    have hperm : (ofEntries entries).keys.Perm (keys entries) :=
      hsub.perm_of_length_le (by simp [keys, hlength])
    exact hperm.nodup_iff.mp (distinct_ofEntries entries)
  · intro distinct
    rw [ofEntries_of_distinct distinct]

end Listing
end PageScripts
