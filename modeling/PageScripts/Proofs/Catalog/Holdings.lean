import Mathlib.Tactic.Choose
import PageScripts.Proofs.Catalog.Outcome

/-!
# What the catalogs hold

A store gives out all three catalogs when each of its options is an object or empty; then it is
described by its `Holdings`, the records of each catalog, and an operation is a step from
holdings to holdings.

* `exists_holdings_iff`: all handles can be listed exactly where all catalogs are given out.
* `shelves_after` and `result_perform`: in a session an operation makes its step and comes to
  its outcome.
* `run_of_plan`, `run_of_replace`: what work does that follows a plan, and what it does if the plan is
  to replace one catalog.
-/

namespace PageScripts

/-- The records of the three catalogs. -/
abbrev Holdings := CatalogName → Fields

namespace Holdings

/-- The shelves of a store that gives all three catalogs out. -/
def shelves (holdings : Holdings) : Shelves :=
  fun name => .ok (holdings name)

/-- The records after a write. -/
def change
    (holdings : Holdings)
    (change : Change) :
    Holdings :=
  fun name => if name = change.name then change.records else holdings name

/-- The records after an operation; one that fails leaves them. -/
def step
    (holdings : Holdings)
    (operation : Operation) :
    Holdings :=
  match operation.plan holdings.shelves with
  | .ok changes => changes.foldl Holdings.change holdings
  | .error _ => holdings

theorem change_self
    (holdings : Holdings)
    (change : Change) :
    holdings.change change change.name = change.records :=
  if_pos rfl

theorem change_of_ne
    (holdings : Holdings)
    {change : Change}
    {name : CatalogName}
    (h : name ≠ change.name) :
    holdings.change change name = holdings name :=
  if_neg h

theorem shelves_change
    (holdings : Holdings)
    (change : Change) :
    (holdings.change change).shelves = holdings.shelves.change change := by
  funext name
  unfold shelves Holdings.change Shelves.change
  by_cases hname : name = change.name
  · rw [if_pos hname, if_pos hname]
  · rw [if_neg hname, if_neg hname]

theorem shelves_changes
    (holdings : Holdings)
    (changes : List Change) :
    (changes.foldl Holdings.change holdings).shelves =
      changes.foldl Shelves.change holdings.shelves := by
  induction changes generalizing holdings with
  | nil =>
      rfl
  | cons change rest ih =>
      rw [List.foldl_cons, List.foldl_cons, ih, shelves_change]

theorem allHandles_shelves (holdings : Holdings) :
    holdings.shelves.allHandles =
      .ok ((CatalogName.all.map holdings).flatMap Listing.keys).eraseDups :=
  rfl

theorem mem_allHandles_iff
    {holdings : Holdings}
    {known : List String}
    (h : holdings.shelves.allHandles = .ok known)
    (handle : String) :
    handle ∈ known ↔ ∃ name, handle ∈ (holdings name).keys := by
  rw [allHandles_shelves] at h
  obtain rfl := Except.ok.inj h
  rw [List.mem_eraseDups, List.flatMap_map, List.mem_flatMap]
  constructor
  · rintro ⟨name, -, hmem⟩
    exact ⟨name, hmem⟩
  · rintro ⟨name, hmem⟩
    exact ⟨name, CatalogName.mem_all name, hmem⟩

end Holdings

/-- All handles can be listed exactly where all catalogs are given out. -/
theorem exists_holdings_iff (shelves : Shelves) :
    (∃ known, shelves.allHandles = .ok known) ↔ ∃ holdings : Holdings, shelves = holdings.shelves := by
  constructor
  · rintro ⟨known, hknown⟩
    obtain ⟨catalogs, hcatalogs, -⟩ := ok_of_bind hknown
    choose holdings hholdings using fun name => ok_of_mapM hcatalogs (CatalogName.mem_all name)
    exact ⟨holdings, funext hholdings⟩
  · rintro ⟨holdings, rfl⟩
    exact ⟨_, holdings.allHandles_shelves⟩

variable {session : Session} {holdings : Holdings}

/-- A table that gives a catalog out is not broken. -/
theorem Session.intact_of_shelf
    {name : CatalogName}
    {records : Fields}
    (h : session.shelves name = .ok records) :
    session.medium ≠ .brokenTable := by
  intro hbroken
  simp [Session.shelves, hbroken] at h

/-- Changes to catalogs leave the options that hold no catalog that is changed. -/
theorem value?_changes
    {changes : List Change}
    {option : String}
    (hother : ∀ change ∈ changes, change.name.option ≠ option)
    (options : Fields) :
    ((changes.map Change.access).foldl Access.apply options).value? option =
      options.value? option := by
  induction changes generalizing options with
  | nil =>
      rfl
  | cons change rest ih =>
      obtain ⟨hfirst, hrest⟩ := List.forall_mem_cons.mp hother
      rw [List.map_cons, List.foldl_cons, ih hrest]
      cases change with
      | replace name records =>
          exact (Listing.value?_put _ _ _ _).trans (if_neg hfirst)
      | drop name =>
          exact (Listing.value?_without _ _ _).trans (if_neg hfirst)

/-- Work that follows a plan comes to what is planned, and makes the planned changes. -/
theorem run_of_plan
    {α : Type}
    {action : Action α}
    {plan : Shelves → Except Fault (Outcome α)}
    (hfollows : Action.Follows action plan)
    (hintact : session.medium ≠ .brokenTable)
    {result : α}
    {changes : List Change}
    (hplan : plan session.shelves = .ok (result, changes)) :
    ∃ after,
      action.run session = (.ok result, after) ∧
      after.medium = session.medium ∧
      after.options = (changes.map Change.access).foldl Access.apply session.options ∧
      after.shelves = changes.foldl Shelves.change session.shelves := by
  obtain ⟨reads, notices, hreads, hrun⟩ := hfollows session
  rw [hplan, Session.settle_of_intact hintact] at hrun
  refine ⟨_, hrun, rfl, ?_, Session.shelves_advance_changes hintact hreads changes notices⟩
  rw [Session.options_advance, List.foldl_append,
    Access.foldl_apply_of_reads reads session.options hreads]

/-- Work that is planned as the replacement of one catalog comes to its result, and it leaves the
other catalogs and the other options. -/
theorem run_of_replace
    {α : Type}
    {action : Action α}
    {plan : Shelves → Except Fault (Outcome α)}
    (hfollows : Action.Follows action plan)
    (hintact : session.medium ≠ .brokenTable)
    {result : α}
    {name : CatalogName}
    {records : Fields}
    (hplan : plan session.shelves = .ok (result, [.replace name records])) :
    (action.run session).1 = .ok result ∧
    ((action.run session).2.shelves = fun other =>
      if other = name then .ok records else session.shelves other) ∧
    ∀ option, option ≠ name.option →
      (action.run session).2.options.value? option = session.options.value? option := by
  obtain ⟨after, hrun, -, hoptions, hshelves⟩ := run_of_plan hfollows hintact hplan
  rw [hrun]
  refine ⟨rfl, hshelves, fun option hoption => ?_⟩
  rw [hoptions]
  refine value?_changes (fun change hchange => ?_) session.options
  rw [List.mem_singleton.mp hchange]
  exact hoption.symm

/-- In a session that gives the catalogs out an operation makes its step. -/
theorem shelves_after
    (h : session.shelves = holdings.shelves)
    (operation : Operation) :
    (operation.after session).shelves = (holdings.step operation).shelves := by
  have hintact := Session.intact_of_shelf (congrFun h .discovered)
  obtain ⟨reads, notices, hreads, hafter⟩ := operation.after_eq session
  rw [hafter, Session.shelves_advance_changes hintact hreads]
  unfold Operation.changes Holdings.step
  rw [h]
  cases operation.plan holdings.shelves with
  | error fault =>
      rfl
  | ok changes =>
      simp only [Session.taken, if_neg hintact, Holdings.shelves_changes]

/-- In a session that gives the catalogs out an operation comes to its outcome. -/
theorem result_perform
    (h : session.shelves = holdings.shelves)
    (operation : Operation) :
    (operation.perform session).1 = (operation.outcome holdings.shelves).map Prod.fst := by
  have hintact := Session.intact_of_shelf (congrFun h .discovered)
  obtain ⟨reads, notices, -, hperform⟩ := operation.perform_eq session
  rw [hperform, h]
  cases operation.outcome holdings.shelves with
  | error fault =>
      rfl
  | ok come =>
      exact congrArg Prod.fst
        (Session.settle_of_intact hintact reads notices come.1 come.2)

end PageScripts
