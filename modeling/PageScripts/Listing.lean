/-!
# Listings: values under keys, in order

A listing holds values under keys in the order in which the keys first came.  Writing to a
key that is present changes its value in place; a new key goes to the end.  JSON objects,
catalogs, rule conditions and the scripts known to a queue are listings.

* `value?` is the view: what stands under a key.
* `value?_put` and `value?_without` say what the two changes do to the view.
* `keys_put` and `keys_without` say what they do to the order.
-/

namespace PageScripts

universe u v w

/-- Values under keys, in the order in which the keys first came. -/
abbrev Listing (κ : Type u) (α : Type v) := List (κ × α)

namespace Listing

variable {κ : Type u} {α : Type v} {β : Type w}

/-- The keys, in order. -/
def keys (entries : Listing κ α) : List κ :=
  entries.map Prod.fst

/-- The values, in order. -/
def values (entries : Listing κ α) : List α :=
  entries.map Prod.snd

/-- No key stands twice. -/
def Distinct (entries : Listing κ α) : Prop :=
  entries.keys.Nodup

/-- Changes every value and keeps the keys. -/
def mapValues
    (f : κ → α → β)
    (entries : Listing κ α) :
    Listing κ β :=
  entries.map fun entry => (entry.1, f entry.1 entry.2)

variable [DecidableEq κ]

/-- The value under a key. -/
def value?
    (key : κ) :
    Listing κ α → Option α
  | [] => none
  | (k, a) :: rest => if k = key then some a else value? key rest

/-- Whether a key is present. -/
def has
    (key : κ)
    (entries : Listing κ α) :
    Bool :=
  (entries.value? key).isSome

/-- Writes a value under a key: in place if the key is present, else at the end. -/
def put
    (key : κ)
    (value : α) :
    Listing κ α → Listing κ α
  | [] => [(key, value)]
  | (k, a) :: rest => if k = key then (k, value) :: rest else (k, a) :: put key value rest

/-- Leaves a key out. -/
def without
    (key : κ) :
    Listing κ α → Listing κ α
  | [] => []
  | (k, a) :: rest => if k = key then without key rest else (k, a) :: without key rest

/-- Writes entries one after another. -/
def putAll
    (entries : Listing κ α)
    (news : List (κ × α)) :
    Listing κ α :=
  news.foldl (fun acc entry => put entry.1 entry.2 acc) entries

/-- The listing of entries that may repeat keys: a repeated key keeps its first place and
takes its last value. -/
def ofEntries (entries : List (κ × α)) : Listing κ α :=
  putAll [] entries

@[simp]
theorem value?_nil (key : κ) :
    value? key ([] : Listing κ α) = none :=
  rfl

theorem value?_put
    (key other : κ)
    (value : α)
    (entries : Listing κ α) :
    value? other (put key value entries) =
      if key = other then some value else value? other entries := by
  induction entries with
  | nil =>
      simp [put, value?]
  | cons entry rest ih =>
      obtain ⟨k, a⟩ := entry
      by_cases hk : k = key
      · subst hk
        by_cases ho : k = other <;> simp [put, value?, ho]
      · simp only [put, hk, if_false, value?, ih]
        by_cases ho : k = other
        · have hne : key ≠ other := fun h => hk (by rw [ho, h])
          simp [ho, hne]
        · simp [ho]

theorem value?_without
    (key other : κ)
    (entries : Listing κ α) :
    value? other (without key entries) =
      if key = other then none else value? other entries := by
  induction entries with
  | nil =>
      simp [without, value?]
  | cons entry rest ih =>
      obtain ⟨k, a⟩ := entry
      by_cases hk : k = key
      · subst hk
        simp only [without, if_true, ih, value?]
        by_cases ho : k = other <;> simp [ho]
      · simp only [without, hk, if_false, value?, ih]
        by_cases ho : k = other
        · have hne : key ≠ other := fun h => hk (by rw [ho, h])
          simp [ho, hne]
        · simp [ho]

theorem keys_put
    (key : κ)
    (value : α)
    (entries : Listing κ α) :
    (put key value entries).keys =
      if key ∈ entries.keys then entries.keys else entries.keys ++ [key] := by
  induction entries with
  | nil =>
      simp [put, keys]
  | cons entry rest ih =>
      obtain ⟨k, a⟩ := entry
      simp only [keys] at ih ⊢
      by_cases hk : k = key
      · simp [put, hk]
      · have hk' : key ≠ k := fun h => hk h.symm
        simp only [put, hk, if_false, List.map_cons, List.mem_cons, hk', false_or]
        rw [ih]
        by_cases hm : key ∈ List.map Prod.fst rest <;> simp [hm]

theorem keys_without
    (key : κ)
    (entries : Listing κ α) :
    (without key entries).keys = entries.keys.filter (· ≠ key) := by
  induction entries with
  | nil =>
      rfl
  | cons entry rest ih =>
      obtain ⟨k, a⟩ := entry
      simp only [keys] at ih ⊢
      by_cases hk : k = key
      · simp only [without, hk, if_true, ih, List.map_cons]
        simp
      · simp only [without, hk, if_false, ih, List.map_cons]
        simp [hk]

theorem value?_eq_none_iff
    (key : κ)
    (entries : Listing κ α) :
    value? key entries = none ↔ key ∉ entries.keys := by
  induction entries with
  | nil =>
      simp [keys]
  | cons entry rest ih =>
      obtain ⟨k, a⟩ := entry
      simp only [keys] at ih
      by_cases hk : k = key
      · simp [value?, keys, hk]
      · have hk' : key ≠ k := fun h => hk h.symm
        simp [value?, keys, hk, hk', ih]

theorem has_iff_mem_keys
    (key : κ)
    (entries : Listing κ α) :
    entries.has key = true ↔ key ∈ entries.keys := by
  have h := value?_eq_none_iff key entries
  cases hv : value? key entries with
  | none =>
      simp only [has, hv]
      simpa using h.mp hv
  | some a =>
      simp only [has, hv]
      simp only [hv, reduceCtorEq, false_iff, Decidable.not_not] at h
      simpa using h

end Listing

end PageScripts
