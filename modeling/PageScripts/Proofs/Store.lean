import PageScripts.Catalog.View
import PageScripts.Proofs.Result

/-!
# What accesses do to a store

The options of a store are followed through the accesses to it, and the three catalogs are
followed with them.

* `Session.stored` is what a catalog holds.
* `Shelves` are the three catalogs as the store gives them out, and a `Change` is a write to one
  of them.
* `Session.stored_advance_changes`: a change is seen in its catalog and in no other.
* `Session.guard_cases`: work is carried out, or it ends at a write that is refused.
-/

namespace PageScripts

namespace Access

/-- Accesses that read leave the options as they are. -/
theorem foldl_apply_of_reads
    (accesses : List Access)
    (options : Listing String Json)
    (h : ∀ access ∈ accesses, access.isWrite = false) :
    accesses.foldl apply options = options := by
  induction accesses with
  | nil =>
      rfl
  | cons access rest ih =>
      have hrest := ih fun a ha => h a (List.mem_cons_of_mem _ ha)
      have hfirst := h access List.mem_cons_self
      cases access with
      | select name =>
          exact hrest
      | upsert name value =>
          simp [isWrite] at hfirst
      | delete name =>
          simp [isWrite] at hfirst

end Access

/-- The three catalogs as a store gives them out. -/
abbrev Shelves := CatalogName → Except Fault Fields

/-- A write to a catalog: its records are replaced, or it is left out. -/
inductive Change
  | replace (name : CatalogName) (records : Fields)
  | drop (name : CatalogName)

namespace Change

/-- The catalog that is written to. -/
def name : Change → CatalogName
  | replace name _ => name
  | drop name => name

/-- The records of the catalog after the write. -/
def records : Change → Fields
  | replace _ records => records
  | drop _ => []

/-- The access to the store that makes the change. -/
def access : Change → Access
  | replace name records => .upsert name.option (.obj records)
  | drop name => .delete name.option

end Change

/-- The catalogs after a change. -/
def Shelves.change
    (shelves : Shelves)
    (change : Change) :
    Shelves :=
  fun name => if name = change.name then .ok change.records else shelves name

@[simp]
theorem Shelves.change_self
    (shelves : Shelves)
    (change : Change) :
    shelves.change change change.name = .ok change.records := by
  simp [Shelves.change]

theorem Shelves.change_of_ne
    (shelves : Shelves)
    (change : Change)
    {name : CatalogName}
    (h : name ≠ change.name) :
    shelves.change change name = shelves name := by
  simp [Shelves.change, h]

namespace Session

@[simp]
theorem advance_nil (session : Session) :
    session.advance [] [] = session := by
  simp [advance]

@[simp]
theorem advance_advance
    (session : Session)
    (first second : List Access)
    (before after : List Notice) :
    (session.advance first before).advance second after =
      session.advance (first ++ second) (before ++ after) := by
  simp [advance]

@[simp]
theorem medium_advance
    (session : Session)
    (accesses : List Access)
    (notices : List Notice) :
    (session.advance accesses notices).medium = session.medium :=
  rfl

@[simp]
theorem options_advance
    (session : Session)
    (accesses : List Access)
    (notices : List Notice) :
    (session.advance accesses notices).options =
      accesses.foldl Access.apply session.options :=
  rfl

/-- The records that a catalog holds. -/
def stored
    (session : Session)
    (name : CatalogName) :
    Except Fault Fields :=
  match session.options.value? name.option with
  | none => .ok []
  | some value => session.medium.readBack value >>= Catalog.recordsOf name

/-- The catalogs as the store gives them out; a broken table gives none. -/
def shelves (session : Session) : Shelves :=
  fun name => if session.medium = .brokenTable then .error .statement else session.stored name

/-- What is stored rests on the options alone. -/
theorem stored_congr
    {first second : Session}
    (hoptions : first.options = second.options)
    (hmedium : first.medium = second.medium) :
    first.stored = second.stored := by
  funext name
  simp only [stored, hoptions, hmedium]

theorem shelves_congr
    {first second : Session}
    (hoptions : first.options = second.options)
    (hmedium : first.medium = second.medium) :
    first.shelves = second.shelves := by
  funext name
  simp only [shelves, stored_congr hoptions hmedium, hmedium]

theorem shelves_of_intact
    {session : Session}
    (h : session.medium ≠ .brokenTable) :
    session.shelves = session.stored := by
  funext name
  simp [shelves, h]

/-- Reading leaves what is stored. -/
theorem stored_advance_reads
    (session : Session)
    {reads : List Access}
    (notices : List Notice)
    (h : ∀ access ∈ reads, access.isWrite = false) :
    (session.advance reads notices).stored = session.stored :=
  stored_congr (Access.foldl_apply_of_reads reads session.options h) rfl

theorem shelves_advance_reads
    (session : Session)
    {reads : List Access}
    (notices : List Notice)
    (h : ∀ access ∈ reads, access.isWrite = false) :
    (session.advance reads notices).shelves = session.shelves :=
  shelves_congr (Access.foldl_apply_of_reads reads session.options h) rfl

/-- A change to a catalog is seen in it and in no other one. -/
theorem stored_advance_change
    (session : Session)
    (change : Change)
    (notices : List Notice) :
    (session.advance [change.access] notices).stored =
      Shelves.change session.stored change := by
  funext name
  cases change with
  | replace target records =>
      by_cases hname : name = target
      · subst hname
        simp only [stored, options_advance, Change.access, List.foldl_cons, List.foldl_nil,
          Access.apply, Listing.value?_put, if_true, medium_advance, Shelves.change, Change.name,
          Change.records]
        cases session.medium <;> rfl
      · have hoption : target.option ≠ name.option :=
          fun h => hname (CatalogName.option_injective _ _ h).symm
        simp [stored, Change.access, Access.apply, Listing.value?_put, hoption, Shelves.change,
          Change.name, hname]
  | drop target =>
      by_cases hname : name = target
      · subst hname
        simp [stored, Change.access, Access.apply, Listing.value?_without, Shelves.change,
          Change.name, Change.records]
      · have hoption : target.option ≠ name.option :=
          fun h => hname (CatalogName.option_injective _ _ h).symm
        simp [stored, Change.access, Access.apply, Listing.value?_without, hoption,
          Shelves.change, Change.name, hname]

/-- Changes are seen one after another. -/
theorem stored_advance_changes
    (session : Session)
    (changes : List Change)
    (notices : List Notice) :
    (session.advance (changes.map Change.access) notices).stored =
      changes.foldl Shelves.change session.stored := by
  induction changes generalizing session notices with
  | nil =>
      exact stored_congr rfl rfl
  | cons change rest ih =>
      have hsplit : session.advance ((change :: rest).map Change.access) notices =
          (session.advance [change.access] []).advance (rest.map Change.access) notices := by
        simp
      rw [hsplit, ih, stored_advance_change, List.foldl_cons]

/-- After some reading, changes are seen one after another, unless the table is broken. -/
theorem shelves_advance_changes
    {session : Session}
    (hintact : session.medium ≠ .brokenTable)
    {reads : List Access}
    (hreads : ∀ access ∈ reads, access.isWrite = false)
    (changes : List Change)
    (notices : List Notice) :
    (session.advance (reads ++ changes.map Change.access) notices).shelves =
      changes.foldl Shelves.change session.shelves := by
  have hsplit : session.advance (reads ++ changes.map Change.access) notices =
      (session.advance reads []).advance (changes.map Change.access) notices := by
    rw [advance_advance, List.nil_append]
  have hmedium : (session.advance (reads ++ changes.map Change.access) notices).medium ≠
      .brokenTable := hintact
  rw [shelves_of_intact hmedium, hsplit, stored_advance_changes,
    stored_advance_reads session [] hreads, ← shelves_of_intact hintact]

section Refusals

variable {refuses : Access → Option TableError}

/-- Only writes are refused. -/
theorem carriedOut_of_reads
    {accesses : List Access}
    (h : ∀ access ∈ accesses, access.isWrite = false) :
    carriedOut refuses accesses = (accesses, none) := by
  induction accesses with
  | nil =>
      rfl
  | cons access rest ih =>
      obtain ⟨hfirst, hrest⟩ := List.forall_mem_cons.mp h
      simp only [carriedOut, hfirst, Bool.false_eq_true, if_false, ih hrest]

/-- What is not carried out is a write that the table refuses. -/
theorem refused_of_carriedOut
    {accesses done : List Access}
    {error : TableError}
    (h : carriedOut refuses accesses = (done, some error)) :
    ∃ access ∈ accesses, access.isWrite = true ∧ refuses access = some error := by
  induction accesses generalizing done with
  | nil =>
      cases h
  | cons access rest ih =>
      rw [carriedOut] at h
      split at h
      · next refused hrefused =>
          cases h
          split at hrefused
          · next hwrite =>
              exact ⟨access, List.mem_cons_self, hwrite, hrefused⟩
          · cases hrefused
      · obtain ⟨-, hlater⟩ := Prod.mk.inj h
        obtain ⟨other, hother, hrefused⟩ := ih (Prod.ext rfl hlater)
        exact ⟨other, List.mem_cons_of_mem access hother, hrefused⟩

/-- Work that only reads is carried out. -/
theorem guard_of_reads
    {α : Type}
    (session : Session)
    {reads : List Access}
    (notices : List Notice)
    (h : ∀ access ∈ reads, access.isWrite = false)
    (result : Except Fault α) :
    guard refuses session (result, session.advance reads notices) =
      (result, session.advance reads notices) := by
  unfold guard advance
  rw [List.drop_left, carriedOut_of_reads h]

/-- Work whose accesses are carried out comes to what it comes to by itself. -/
theorem guard_of_carriedOut
    {α : Type}
    {before after : Session}
    (result : Except Fault α)
    {done : List Access}
    (h : carriedOut refuses (after.accesses.drop before.accesses.length) = (done, none)) :
    guard refuses before (result, after) = (result, after) := by
  simp only [guard, h]

/-- Work with a write that is refused ends there, and what was done before is kept. -/
theorem guard_of_refused
    {α : Type}
    {before after : Session}
    (result : Except Fault α)
    {done : List Access}
    {error : TableError}
    (h : carriedOut refuses (after.accesses.drop before.accesses.length) = (done, some error)) :
    guard refuses before (result, after) =
      (.error error.fault, before.advance done (after.notices.drop before.notices.length)) := by
  simp only [guard, h]

/-- Work is carried out, or it ends at a write that the table refuses. -/
theorem guard_cases
    {α : Type}
    (refuses : Access → Option TableError)
    (before : Session)
    (work : Except Fault α × Session) :
    guard refuses before work = work ∨
      ∃ access ∈ work.2.accesses.drop before.accesses.length, ∃ error,
        access.isWrite = true ∧ refuses access = some error ∧
          (guard refuses before work).1 = .error error.fault := by
  unfold guard
  split
  · exact .inl rfl
  · next done error hdone =>
      obtain ⟨access, hmem, hwrite, hrefused⟩ := refused_of_carriedOut hdone
      exact .inr ⟨access, hmem, error, hwrite, hrefused, rfl⟩

end Refusals

end Session
end PageScripts
