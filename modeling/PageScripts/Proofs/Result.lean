/-!
# Results of work that may fail

Work that is done in turn, or for one item after another, succeeds only if each part does.

`Raises kind work` says which faults the work may end in; it holds of work that is done in turn if it
holds of each part.
-/

namespace PageScripts

/-- What is done in turn succeeds only if both parts do. -/
theorem ok_of_bind
    {ε α β : Type}
    {first : Except ε α}
    {next : α → Except ε β}
    {result : β}
    (h : first >>= next = .ok result) :
    ∃ a, first = .ok a ∧ next a = .ok result := by
  cases first with
  | error fault =>
      cases h
  | ok a =>
      exact ⟨a, rfl, h⟩

theorem ok_of_map
    {ε α β : Type}
    {f : α → β}
    {work : Except ε α}
    {result : β}
    (h : work.map f = .ok result) :
    ∃ a, work = .ok a ∧ f a = result := by
  cases work with
  | error fault =>
      cases h
  | ok a =>
      exact ⟨a, rfl, Except.ok.inj h⟩

/-- What is done for all items is done for each. -/
theorem ok_of_mapM
    {ε α β : Type}
    {f : α → Except ε β}
    {items : List α}
    {results : List β}
    (h : items.mapM f = .ok results)
    {a : α}
    (hmem : a ∈ items) :
    ∃ b, f a = .ok b := by
  induction items generalizing results with
  | nil =>
      cases hmem
  | cons first rest ih =>
      rw [List.mapM_cons] at h
      obtain ⟨b, hb, hrest⟩ := ok_of_bind h
      obtain ⟨bs, hbs, -⟩ := ok_of_bind hrest
      rcases List.mem_cons.mp hmem with rfl | hmem
      · exact ⟨b, hb⟩
      · exact ih hbs hmem

/-- The result for an item is among the results for all items. -/
theorem mem_of_mapM
    {ε α β : Type}
    {f : α → Except ε β}
    {items : List α}
    {results : List β}
    (h : items.mapM f = .ok results)
    {a : α}
    {b : β}
    (hmem : a ∈ items)
    (hb : f a = .ok b) :
    b ∈ results := by
  induction items generalizing results with
  | nil =>
      cases hmem
  | cons first rest ih =>
      rw [List.mapM_cons] at h
      obtain ⟨c, hc, hrest⟩ := ok_of_bind h
      obtain ⟨cs, hcs, hresults⟩ := ok_of_bind hrest
      obtain rfl := Except.ok.inj hresults
      rcases List.mem_cons.mp hmem with rfl | hmem
      · obtain rfl := Except.ok.inj (hc.symm.trans hb)
        exact List.mem_cons_self
      · exact List.mem_cons_of_mem c (ih hcs hmem)

/-- A result for all items is the result for one of them. -/
theorem exists_of_mapM
    {ε α β : Type}
    {f : α → Except ε β}
    {items : List α}
    {results : List β}
    (h : items.mapM f = .ok results)
    {b : β}
    (hmem : b ∈ results) :
    ∃ a ∈ items, f a = .ok b := by
  induction items generalizing results with
  | nil =>
      cases h
      cases hmem
  | cons first rest ih =>
      rw [List.mapM_cons] at h
      obtain ⟨c, hc, hrest⟩ := ok_of_bind h
      obtain ⟨cs, hcs, hresults⟩ := ok_of_bind hrest
      obtain rfl := Except.ok.inj hresults
      rcases List.mem_cons.mp hmem with rfl | hmem
      · exact ⟨first, List.mem_cons_self, hc⟩
      · obtain ⟨a, ha, hb⟩ := ih hcs hmem
        exact ⟨a, List.mem_cons_of_mem first ha, hb⟩

/-- What each result has of its item, all of them have in order. -/
theorem map_of_mapM
    {ε α β γ : Type}
    {f : α → Except ε β}
    {g : β → γ}
    {k : α → γ}
    (hsame : ∀ a b, f a = .ok b → g b = k a)
    {items : List α}
    {results : List β}
    (h : items.mapM f = .ok results) :
    results.map g = items.map k := by
  induction items generalizing results with
  | nil =>
      cases h
      rfl
  | cons first rest ih =>
      rw [List.mapM_cons] at h
      obtain ⟨b, hb, hrest⟩ := ok_of_bind h
      obtain ⟨bs, hbs, hresults⟩ := ok_of_bind hrest
      obtain rfl := Except.ok.inj hresults
      rw [List.map_cons, List.map_cons, hsame first b hb, ih hbs]

/-- What is done for all items fails as it does for one of them. -/
theorem error_of_mapM
    {ε α β : Type}
    {f : α → Except ε β}
    {items : List α}
    {fault : ε}
    (h : items.mapM f = .error fault) :
    ∃ a ∈ items, f a = .error fault := by
  induction items with
  | nil =>
      cases h
  | cons first rest ih =>
      rw [List.mapM_cons] at h
      cases hfirst : f first with
      | error cause =>
          rw [hfirst] at h
          cases h
          exact ⟨first, List.mem_cons_self, hfirst⟩
      | ok b =>
          cases hrest : rest.mapM f with
          | error cause =>
              rw [hfirst, hrest] at h
              cases h
              obtain ⟨a, hmem, ha⟩ := ih hrest
              exact ⟨a, List.mem_cons_of_mem first hmem, ha⟩
          | ok bs =>
              rw [hfirst, hrest] at h
              cases h

/-- Items that are left out leave out their results and no others. -/
theorem mapM_filter
    {ε α β : Type}
    {f : α → Except ε β}
    {keep : α → Bool}
    {keeps : β → Bool}
    (hsame : ∀ a b, f a = .ok b → keeps b = keep a)
    {items : List α}
    {results : List β}
    (h : items.mapM f = .ok results) :
    (items.filter keep).mapM f = .ok (results.filter keeps) := by
  induction items generalizing results with
  | nil =>
      cases h
      rfl
  | cons first rest ih =>
      rw [List.mapM_cons] at h
      obtain ⟨b, hb, hrest⟩ := ok_of_bind h
      obtain ⟨bs, hbs, hresults⟩ := ok_of_bind hrest
      obtain rfl := Except.ok.inj hresults
      rw [List.filter_cons, List.filter_cons, hsame first b hb]
      by_cases hkeep : keep first = true
      · rw [if_pos hkeep, if_pos hkeep, List.mapM_cons, hb, ih hbs]
        rfl
      · rw [if_neg hkeep, if_neg hkeep]
        exact ih hbs

section Raises

variable {ε α β : Type}
variable {kind : ε → Prop}

/-- All faults of the work are of a kind. -/
def Raises
    (kind : ε → Prop)
    (work : Except ε α) : Prop :=
  ∀ fault, work = .error fault → kind fault

theorem Raises.ok (result : α) :
    Raises kind (.ok result) := by
  intro fault h
  cases h

theorem Raises.error
    {fault : ε}
    (h : kind fault) :
    Raises kind (.error fault : Except ε α) := by
  intro other heq
  cases heq
  exact h

/-- What comes second is done with the result of what comes first. -/
theorem Raises.bind_ok
    {first : Except ε α}
    {next : α → Except ε β}
    (hfirst : Raises kind first)
    (hnext : ∀ a, first = .ok a → Raises kind (next a)) :
    Raises kind (first >>= next) := by
  cases hresult : first with
  | error cause =>
      exact .error (hfirst cause hresult)
  | ok a =>
      exact hnext a hresult

theorem Raises.bind
    {first : Except ε α}
    {next : α → Except ε β}
    (hfirst : Raises kind first)
    (hnext : ∀ a, Raises kind (next a)) :
    Raises kind (first >>= next) :=
  hfirst.bind_ok fun a _ => hnext a

theorem Raises.mono
    {other : ε → Prop}
    {work : Except ε α}
    (h : Raises kind work)
    (hsub : ∀ fault, kind fault → other fault) :
    Raises other work :=
  fun fault hfault => hsub fault (h fault hfault)

theorem Raises.map
    {work : Except ε α}
    (h : Raises kind work)
    (f : α → β) :
    Raises kind (work.map f) := by
  cases work with
  | error fault =>
      exact .error (h fault rfl)
  | ok a =>
      exact .ok (f a)

theorem Raises.ite
    {condition : Prop}
    [Decidable condition]
    {first second : Except ε α}
    (hfirst : Raises kind first)
    (hsecond : Raises kind second) :
    Raises kind (if condition then first else second) := by
  by_cases h : condition
  · rwa [if_pos h]
  · rwa [if_neg h]

theorem Raises.mapM
    {f : α → Except ε β}
    (h : ∀ a, Raises kind (f a))
    (items : List α) :
    Raises kind (items.mapM f) := by
  intro fault hfault
  obtain ⟨a, -, ha⟩ := error_of_mapM hfault
  exact h a fault ha

theorem Raises.forM
    {f : α → Except ε PUnit}
    (h : ∀ a, Raises kind (f a))
    (items : List α) :
    Raises kind (items.forM f) := by
  induction items with
  | nil =>
      exact .ok _
  | cons first rest ih =>
      exact (h first).bind fun _ => ih

end Raises

end PageScripts
