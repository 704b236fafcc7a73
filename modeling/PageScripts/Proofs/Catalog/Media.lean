import PageScripts.Proofs.Catalog.FirstSeen

/-!
# The stores are interchangeable

The catalogs are kept in memory or in a table, and the table gives an option back as its JSON text
or decoded.  What the work on the catalogs comes to does not depend on it.

* `Job`: an operation on the catalogs, or a question about them.
* `Session.Alike`: two sessions have the same options, and give the catalogs out alike.
* `alike_perform`, `alike_work`: a job comes to the same in such sessions, and they stay alike.
* `Medium.Serves`, `alike_of_serves`: stores that give the catalogs back as they hold them are alike
  if they hold the same.

**Result.**  `stores_interchangeable`: in memory and in such a table all jobs of a run come to the
same, and in the end the options are the same.
-/

namespace PageScripts

open Catalog
open PageScripts.Action

section Jobs

/-- Only a managed catalog has managed scripts. -/
theorem reads_managedOf (name : CatalogName) :
    Reads (managedOf name) (fun shelves =>
      match name.managed? with
      | some catalog => shelves.managed catalog
      | none => .error .unmanagedCatalog) := by
  unfold managedOf
  cases name.managed? with
  | none =>
      exact Reads.throw .unmanagedCatalog
  | some catalog =>
      exact reads_managed catalog

/-- A question about the catalogs. -/
inductive Question
  | raw (name : CatalogName)
  | records (name : CatalogName)
  | discovered
  | managed (name : CatalogName)
  | rules (name : CatalogName) (handle : String)
  | owner (handle : String)
  | handles

namespace Question

/-- What a question asks for. -/
def Answer : Question → Type
  | raw _ => Fields
  | records _ => Listing String Fields
  | discovered => Listing String DiscoveredScript
  | managed _ => Listing String ManagedScript
  | rules _ _ => Option RuleSet
  | owner _ => Option CatalogName
  | handles => List String

/-- To put the question to a store. -/
def ask : (question : Question) → Action question.Answer
  | raw name => Catalog.raw name
  | records name => Catalog.records name
  | discovered => Catalog.discovered
  | managed name => Catalog.managedOf name
  | rules name handle => Catalog.getRules name handle
  | owner handle => Catalog.ownerOf handle
  | handles => Catalog.allHandles

/-- The answer is worked out of the shelves. -/
theorem exists_view (question : Question) :
    ∃ view, Reads question.ask view := by
  cases question with
  | raw name =>
      exact ⟨_, Reads.raw name⟩
  | records name =>
      exact ⟨_, reads_records name⟩
  | discovered =>
      exact ⟨_, reads_discovered⟩
  | managed name =>
      exact ⟨_, reads_managedOf name⟩
  | rules name handle =>
      exact ⟨_, reads_getRules name handle⟩
  | owner handle =>
      exact ⟨_, reads_ownerOf handle⟩
  | handles =>
      exact ⟨_, reads_allHandles⟩

end Question

/-- A piece of work on the catalogs. -/
inductive Job : Type 1
  | operate (operation : Operation)
  | ask (question : Question)

namespace Job

/-- What a job gives when it succeeds. -/
def Result : Job → Type
  | operate operation => operation.Result
  | ask question => question.Answer

/-- The result or the fault of a job, and the session after it. -/
def perform
    (job : Job)
    (session : Session) :
    Except Fault job.Result × Session :=
  match job with
  | operate operation => operation.perform session
  | ask question => question.ask.run session

end Job

/-- The session after some jobs, each of which may fail. -/
def Session.work
    (session : Session)
    (jobs : List Job) :
    Session :=
  jobs.foldl (fun session job => (job.perform session).2) session

end Jobs

section Likeness

/-- Both stores are sound, have the same options, and give the catalogs out alike. -/
structure Session.Alike (first second : Session) : Prop where
  intact : first.medium ≠ .brokenTable ∧ second.medium ≠ .brokenTable
  options : first.options = second.options
  shelves : first.shelves = second.shelves

variable {first second : Session}

/-- Sessions are alike after they were read from. -/
theorem alike_advance_reads
    (alike : first.Alike second)
    {reads others : List Access}
    (hreads : OnlyReads reads)
    (hothers : OnlyReads others)
    (notices further : List Notice) :
    (first.advance reads notices).Alike (second.advance others further) where
  intact := alike.intact
  options := by
    rw [Session.options_advance, Session.options_advance,
      Access.foldl_apply_of_reads reads _ hreads, Access.foldl_apply_of_reads others _ hothers,
      alike.options]
  shelves := by
    rw [Session.shelves_advance_reads first notices hreads,
      Session.shelves_advance_reads second further hothers, alike.shelves]

/-- Sessions are alike after the same changes. -/
theorem alike_advance_changes
    (alike : first.Alike second)
    (changes : List Change) :
    (first.advance (changes.map Change.access) []).Alike
      (second.advance (changes.map Change.access) []) where
  intact := alike.intact
  options := by
    rw [Session.options_advance, Session.options_advance, alike.options]
  shelves := by
    have hfirst := Session.shelves_advance_changes alike.intact.1 OnlyReads.nil changes []
    have hsecond := Session.shelves_advance_changes alike.intact.2 OnlyReads.nil changes []
    rw [List.nil_append] at hfirst hsecond
    rw [hfirst, hsecond, alike.shelves]

/-- An outcome is settled alike. -/
theorem alike_settle
    {α : Type}
    (alike : first.Alike second)
    {reads others : List Access}
    (hreads : OnlyReads reads)
    (hothers : OnlyReads others)
    (notices further : List Notice)
    (outcome : Except Fault (Outcome α)) :
    (first.settle reads notices outcome).1 = (second.settle others further outcome).1 ∧
      (first.settle reads notices outcome).2.Alike (second.settle others further outcome).2 := by
  have hread := alike_advance_reads alike hreads hothers notices further
  cases outcome with
  | error fault =>
      exact ⟨rfl, hread⟩
  | ok come =>
      obtain ⟨result, changes⟩ := come
      have hchanged := alike_advance_changes hread changes
      rw [Session.advance_advance, Session.advance_advance, List.append_nil,
        List.append_nil] at hchanged
      rw [Session.settle_of_intact alike.intact.1, Session.settle_of_intact alike.intact.2]
      exact ⟨rfl, hchanged⟩

/-- A job comes to the same in sessions that are alike, and they are alike after it. -/
theorem alike_perform
    (alike : first.Alike second)
    (job : Job) :
    (job.perform first).1 = (job.perform second).1 ∧
      (job.perform first).2.Alike (job.perform second).2 := by
  cases job with
  | operate operation =>
      obtain ⟨reads, notices, hreads, hfirst⟩ := operation.perform_eq first
      obtain ⟨others, further, hothers, hsecond⟩ := operation.perform_eq second
      have hsettled := alike_settle alike hreads hothers notices further
        (operation.outcome first.shelves)
      change (operation.perform first).1 = (operation.perform second).1 ∧
        (operation.perform first).2.Alike (operation.perform second).2
      rwa [hfirst, hsecond, ← alike.shelves]
  | ask question =>
      obtain ⟨view, hview⟩ := question.exists_view
      obtain ⟨reads, notices, hreads, hfirst⟩ := hview first
      obtain ⟨others, further, hothers, hsecond⟩ := hview second
      change (question.ask.run first).1 = (question.ask.run second).1 ∧
        (question.ask.run first).2.Alike (question.ask.run second).2
      rw [hfirst, hsecond, ← alike.shelves]
      exact ⟨rfl, alike_advance_reads alike hreads hothers notices further⟩

/-- Sessions that are alike stay so through all jobs. -/
theorem alike_work
    (alike : first.Alike second)
    (jobs : List Job) :
    (first.work jobs).Alike (second.work jobs) := by
  induction jobs generalizing first second with
  | nil =>
      exact alike
  | cons job rest ih =>
      exact ih (alike_perform alike job).2

end Likeness

section Media

variable {options : Listing String Json}
variable {medium : Medium}

/-- A store gives back the catalogs as it holds them: the memory, a table that gives JSON texts, or
one that gives decoded values, if none of the catalogs is a text. -/
inductive Medium.Serves (options : Listing String Json) : Medium → Prop
  | memory :
      Serves options .memory
  | texts :
      Serves options .textTable
  | decoded
      (noText : ∀ (name : CatalogName) text, options.value? name.option ≠ some (.str text)) :
      Serves options .table

theorem intact_of_serves (serves : medium.Serves options) :
    medium ≠ .brokenTable := by
  cases serves <;> decide

theorem readBack_of_serves
    (serves : medium.Serves options)
    {name : CatalogName}
    {value : Json}
    (hvalue : options.value? name.option = some value) :
    medium.readBack value = .ok value := by
  cases serves with
  | memory | texts =>
      rfl
  | decoded noText =>
      cases value with
      | str text =>
          exact absurd hvalue (noText name text)
      | _ =>
          rfl

/-- Each catalog is what its option means. -/
theorem shelves_of_serves
    (serves : medium.Serves options)
    (name : CatalogName) :
    ({ options, medium } : Session).shelves name =
      match options.value? name.option with
      | none => .ok []
      | some value => recordsOf name value := by
  have hintact : ({ options, medium } : Session).medium ≠ .brokenTable := intact_of_serves serves
  rw [Session.shelves_of_intact hintact]
  unfold Session.stored
  cases hvalue : options.value? name.option with
  | none =>
      rfl
  | some value =>
      simp only [readBack_of_serves serves hvalue]
      rfl

/-- Such stores are alike. -/
theorem alike_of_serves
    {other : Medium}
    (serves : medium.Serves options)
    (others : other.Serves options) :
    Session.Alike { options, medium } { options, medium := other } where
  intact := ⟨intact_of_serves serves, intact_of_serves others⟩
  options := rfl
  shelves := by
    funext name
    rw [shelves_of_serves serves, shelves_of_serves others]

/-- A value that is neither empty nor an object is no catalog. -/
theorem recordsOf_corrupt
    (name : CatalogName)
    {value : Json}
    (hnull : value ≠ .null)
    (hempty : value ≠ .arr [])
    (hkind : value.kind ≠ .obj) :
    recordsOf name value = .error (.corruptCatalog name value.kind) := by
  unfold recordsOf
  split
  · exact absurd rfl hnull
  · exact absurd rfl hempty
  · exact absurd rfl hkind
  · rfl

/-- What is told of a catalog is what its option means. -/
theorem raw_of_serves
    (serves : medium.Serves options)
    {name : CatalogName}
    {value : Json}
    (hvalue : options.value? name.option = some value) :
    ((raw name).run { options, medium }).1 = recordsOf name value := by
  have hshelf := shelves_of_serves serves name
  rw [hvalue] at hshelf
  exact ((Reads.raw name).result _).trans hshelf

/-- The stores are interchangeable.  Let a table give back what it holds, either as JSON texts or
decoded; in the second way let none of the catalogs be a text.  Then do any jobs in memory, and from
the same options in the table.
* Each of them comes to the same result, or to the same fault.
* In the end the options are the same.
* In both stores a catalog is empty if its option is null or an empty list, and is reported to be
  corrupt if it is anything else that is no object. -/
theorem stores_interchangeable
    (serves : medium.Serves options)
    (jobs : List Job) :
    let memory : Session := { options }
    let table : Session := { options, medium }
    (∀ done job left, jobs = done ++ job :: left →
      (job.perform (memory.work done)).1 = (job.perform (table.work done)).1) ∧
    (memory.work jobs).options = (table.work jobs).options ∧
    ∀ session ∈ [memory, table], ∀ (name : CatalogName) value,
      options.value? name.option = some value →
        (value = .null ∨ value = .arr [] → ((raw name).run session).1 = .ok []) ∧
        (value ≠ .null → value ≠ .arr [] → value.kind ≠ .obj →
          ((raw name).run session).1 = .error (.corruptCatalog name value.kind)) := by
  intro memory table
  have halike : memory.Alike table := alike_of_serves .memory serves
  refine ⟨fun done job left _ => (alike_perform (alike_work halike done) job).1,
    (alike_work halike jobs).options, fun session hmem name value hvalue => ?_⟩
  have hraw : ((raw name).run session).1 = recordsOf name value := by
    rcases List.mem_cons.mp hmem with rfl | htable
    · exact raw_of_serves .memory hvalue
    · rw [List.mem_singleton.mp htable]
      exact raw_of_serves serves hvalue
  rw [hraw]
  refine ⟨?_, recordsOf_corrupt name⟩
  rintro (rfl | rfl) <;> rfl

/-- A store with a discovered script, a corrupt catalog, an empty one that is a list, and an option
that is no catalog. -/
def mixedOptions : Listing String Json :=
  [ ("psa_found_scripts", .obj [("app", .obj [("src", .str "/app.js")]), ("torn", .int 7)]),
    ("psa_dequeued_scripts", .arr [.null]), ("psa_manual_scripts", .arr []),
    ("site_title", .str "not JSON") ]

/-- Some jobs of either kind succeed, and some fail on the corrupt catalog. -/
def mixedJobs : List Job :=
  [ .operate (.forget (.arr [.str "torn"])), .ask .discovered,
    .operate (.dequeue (.arr [.str "app"]) 4), .ask (.managed .removed),
    .operate (.render Vocabulary.registry {} {} true 5 {}) ]

/-- In a table of decoded values the corrupt catalog is reported and the empty one is read. -/
theorem stores_interchangeable_mixed :
    Medium.table.Serves mixedOptions ∧
    (({ options := mixedOptions } : Session).work mixedJobs).options =
      (({ options := mixedOptions, medium := .table } : Session).work mixedJobs).options ∧
    ((raw .removed).run { options := mixedOptions, medium := .table }).1 =
      .error (.corruptCatalog .removed .arr) ∧
    ((raw .manual).run { options := mixedOptions, medium := .table }).1 = .ok [] := by
  have hserves : Medium.table.Serves mixedOptions := by
    refine .decoded fun name text h => ?_
    cases name <;> cases h
  obtain ⟨-, hoptions, hraw⟩ := stores_interchangeable hserves mixedJobs
  have htable (name : CatalogName) (value : Json) := hraw _
    (List.mem_cons_of_mem _ List.mem_cons_self) name value
  refine ⟨hserves, hoptions, ?_, ?_⟩
  · exact (htable .removed (.arr [.null]) rfl).2 (by decide) (by decide) (by decide)
  · exact (htable .manual (.arr []) rfl).1 (.inr rfl)

/-- An empty list is reported by neither store.  A text is reported in memory, and in a table of
decoded values it is read as JSON once more. -/
theorem not_reported_as_corrupt :
    let empty : Session := { options := [("psa_found_scripts", .arr [])] }
    let text : Session := { options := [("psa_found_scripts", .str "\x7b\x7d")] }
    ((raw .discovered).run empty).1 = .ok [] ∧
    ((raw .discovered).run { empty with medium := .table }).1 = .ok [] ∧
    ((raw .discovered).run text).1 = .error (.corruptCatalog .discovered .str) ∧
    ((raw .discovered).run { text with medium := .table }).1 = .ok [] := by
  refine ⟨rfl, rfl, rfl, ?_⟩
  decide +kernel

end Media

end PageScripts
