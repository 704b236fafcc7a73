import Mathlib.Tactic.Choose
import PageScripts.Command.Rehearsal
import PageScripts.Proofs.Catalog.Holdings
import PageScripts.Proofs.Catalog.Success
import PageScripts.Proofs.Render.Damage

/-!
# A pass on a copy of the catalogs

Before a rehearsal without saving the records of all catalogs are copied, and after one with a state
file they are told again to be saved.  Both ask for all catalogs, whereas a pass asks for those that
it needs.

* `contents_shelves`: the records of all catalogs can be told if all catalogs are given out, and the
  copy gives the same ones out (`shelves_copy`).
* `render_of_holdings`: where all catalogs are given out, a pass comes to what is planned, on the copy
  as on the catalogs themselves.
* `contents_after_render` and `shelves_after_render`: after a pass that came to a report, only the
  discovered scripts may stand in the way of telling the records again.
* `Rehearsal.renderLive_of_carriedOut` and `Rehearsal.renderLive_of_refused`: with a table that refuses
  writes, the pass comes to the same, or ends at a write that is refused.
-/

namespace PageScripts

open PageScripts.Action
open PageScripts.Desk (Rehearsal)

/-- The records of all catalogs, each catalog under the key that it is given. -/
def Shelves.contents
    (shelves : Shelves)
    (key : CatalogName → String) :
    Except Fault Fields :=
  CatalogName.all.mapM fun name => do
    return (key name, .obj (← shelves name))

section Contents

variable {shelves : Shelves}
variable {key : CatalogName → String}

theorem reads_contents (key : CatalogName → String) :
    Reads (Catalog.contents key) (fun shelves => shelves.contents key) :=
  Reads.mapM
    (fun name => (Reads.raw name).bind fun records => Reads.pure (key name, Json.obj records))
    CatalogName.all

/-- The records of all catalogs can be told exactly if all catalogs are given out. -/
theorem holdings_of_contents
    {fields : Fields}
    (h : shelves.contents key = .ok fields) :
    ∃ holdings : Holdings, shelves = holdings.shelves := by
  have hgiven : ∀ name, ∃ records, shelves name = .ok records := by
    intro name
    obtain ⟨entry, hentry⟩ := ok_of_mapM h (CatalogName.mem_all name)
    obtain ⟨records, hrecords, -⟩ := ok_of_bind hentry
    exact ⟨records, hrecords⟩
  choose holdings hholdings using hgiven
  exact ⟨holdings, funext hholdings⟩

theorem contents_shelves
    (holdings : Holdings)
    (key : CatalogName → String) :
    holdings.shelves.contents key =
      .ok (CatalogName.all.map fun name => (key name, .obj (holdings name))) :=
  rfl

/-- A copy of the catalogs in memory gives them out. -/
theorem shelves_copy (holdings : Holdings) :
    ({ options := CatalogName.all.map fun name => (name.option, .obj (holdings name)) } :
      Session).shelves = holdings.shelves := by
  funext name
  cases name <;> rfl

/-- If the discovered scripts are not given out, the records of all catalogs are not either. -/
theorem contents_of_discovered
    {fault : Fault}
    (h : shelves .discovered = .error fault) :
    shelves.contents key = .error fault := by
  unfold Shelves.contents CatalogName.all
  rw [List.mapM_cons, h]
  rfl

end Contents

section Render

variable {world : World}
variable {rehearsal : Rehearsal}
variable {session : Session}

/-- The plan of the pass of a rehearsal. -/
def Desk.Rehearsal.plan
    (rehearsal : Rehearsal)
    (world : World)
    (shelves : Shelves) :
    Except Fault (Outcome RenderReport) × RenderQueue :=
  renderPlan Vocabulary.registry world.site rehearsal.request rehearsal.discover world.now
    rehearsal.queue shelves

theorem render_eq
    (rehearsal : Rehearsal)
    (world : World)
    (session : Session) :
    ∃ reads notices, OnlyReads reads ∧
      rehearsal.render world session =
        let plan := rehearsal.plan world session.shelves
        let settled := session.settle reads notices plan.1
        (settled.1, { queue := plan.2, session := settled.2 }) :=
  run_renderPass Vocabulary.registry world.site rehearsal.request rehearsal.discover world.now
    { queue := rehearsal.queue, session }

/-- In a session that gives all catalogs out, the pass comes to what is planned. -/
theorem render_of_holdings
    (world : World)
    (rehearsal : Rehearsal)
    {holdings : Holdings}
    (h : session.shelves = holdings.shelves) :
    (rehearsal.render world session).1 =
        (rehearsal.plan world holdings.shelves).1.map Prod.fst ∧
      (rehearsal.render world session).2.queue = (rehearsal.plan world holdings.shelves).2 := by
  obtain ⟨reads, notices, -, hrender⟩ := render_eq rehearsal world session
  have hintact := Session.intact_of_shelf (congrFun h .discovered)
  rw [hrender, h]
  refine ⟨?_, rfl⟩
  cases hplan : (rehearsal.plan world holdings.shelves).1 with
  | error fault =>
      simp only [hplan]
      rfl
  | ok come =>
      simp only [hplan]
      exact congrArg Prod.fst (Session.settle_of_intact hintact reads notices come.1 come.2)

/-- A pass that comes to a report has been given the two managed catalogs. -/
theorem given_of_render
    {report : RenderReport}
    (h : (rehearsal.render world session).1 = .ok report)
    (catalog : ManagedCatalog) :
    ∃ records, session.shelves catalog.name = .ok records := by
  obtain ⟨reads, notices, -, hrender⟩ := render_eq rehearsal world session
  rw [hrender] at h
  obtain ⟨changes, hplan⟩ := Session.ok_of_settle h
  unfold Desk.Rehearsal.plan renderPlan at hplan
  cases hboth : session.shelves.bothManaged with
  | error fault =>
      rw [hboth] at hplan
      cases hplan
  | ok both =>
      obtain ⟨manual, hmanual, hrest⟩ := ok_of_bind hboth
      obtain ⟨removed, hremoved, -⟩ := ok_of_bind hrest
      cases catalog with
      | manual =>
          obtain ⟨records, hrecords, -⟩ := ok_of_bind hmanual
          exact ⟨records, hrecords⟩
      | removed =>
          obtain ⟨records, hrecords, -⟩ := ok_of_bind hremoved
          exact ⟨records, hrecords⟩

/-- After a pass that came to a report the catalogs are given out if the discovered scripts were
given out before it. -/
theorem contents_after_render
    {report : RenderReport}
    (h : (rehearsal.render world session).1 = .ok report)
    {found : Fields}
    (hfound : session.shelves .discovered = .ok found)
    (key : CatalogName → String) :
    ∃ fields, (rehearsal.render world session).2.session.shelves.contents key = .ok fields := by
  have hgiven : ∀ name, ∃ records, session.shelves name = .ok records := by
    intro name
    cases name with
    | discovered =>
        exact ⟨found, hfound⟩
    | removed =>
        exact given_of_render h .removed
    | manual =>
        exact given_of_render h .manual
  choose holdings hholdings using hgiven
  have hshelves : session.shelves = Holdings.shelves holdings := funext hholdings
  have hintact := Session.intact_of_shelf hfound
  obtain ⟨reads, notices, hreads, hrender⟩ := render_eq rehearsal world session
  rw [hrender] at h ⊢
  obtain ⟨changes, hplan⟩ := Session.ok_of_settle h
  have hafter : (session.settle reads notices (rehearsal.plan world session.shelves).1).2.shelves =
      (changes.foldl Holdings.change holdings).shelves := by
    rw [hplan, Session.settle_of_intact hintact,
      Session.shelves_advance_changes hintact hreads, hshelves, Holdings.shelves_changes]
  simp only [hafter]
  exact ⟨_, contents_shelves _ key⟩

/-- If the discovered scripts are not given out, a pass that comes to a report has not asked for
them, and leaves the catalogs. -/
theorem shelves_after_render
    {report : RenderReport}
    (h : (rehearsal.render world session).1 = .ok report)
    {fault : Fault}
    (hfound : session.shelves .discovered = .error fault) :
    (rehearsal.render world session).2.session.shelves = session.shelves := by
  obtain ⟨records, hrecords⟩ := given_of_render h .removed
  have hintact := Session.intact_of_shelf hrecords
  obtain ⟨reads, notices, hreads, hrender⟩ := render_eq rehearsal world session
  rw [hrender] at h ⊢
  obtain ⟨changes, hplan⟩ := Session.ok_of_settle h
  have hnone : changes = [] := by
    obtain ⟨taken, crawled, hcrawl | hnone⟩ := changes_of_renderPlan hplan
    · rcases Catalog.found_of_crawlPlan hcrawl with hnone | ⟨known, found, grown, hgiven, -⟩
      · exact hnone
      · rw [hfound] at hgiven
        cases hgiven
    · exact hnone
  simp only [hplan, hnone, Session.settle_of_intact hintact, List.map_nil, List.append_nil]
  exact Session.shelves_advance_reads session notices hreads

/-! ## With a table that refuses writes -/

namespace Desk.Rehearsal

/-- The accesses of a pass, one after another. -/
def accesses
    (rehearsal : Rehearsal)
    (world : World)
    (session : Session) :
    List Access :=
  (rehearsal.render world session).2.session.accesses.drop session.accesses.length

/-- A pass that fails by itself has only read: the table refuses nothing. -/
theorem renderLive_of_error
    {fault : Fault}
    (h : (rehearsal.render world session).1 = .error fault) :
    rehearsal.renderLive world session = rehearsal.render world session := by
  obtain ⟨reads, notices, hreads, hrender⟩ := render_eq rehearsal world session
  rw [hrender] at h
  have hread := Session.settle_of_error h
  unfold renderLive
  simp only [hrender, hread, Session.guard_of_reads session notices hreads]

/-- A pass that the table carries out comes to what it comes to by itself. -/
theorem renderLive_of_carriedOut
    {done : List Access}
    (h : Session.carriedOut world.refuses (rehearsal.accesses world session) = (done, none)) :
    rehearsal.renderLive world session = rehearsal.render world session := by
  have hguard := Session.guard_of_carriedOut (rehearsal.render world session).1 h
  unfold renderLive
  simp only [hguard]

/-- Otherwise it ends at the first write that is refused. -/
theorem renderLive_of_refused
    {done : List Access}
    {error : TableError}
    (h : Session.carriedOut world.refuses (rehearsal.accesses world session) =
      (done, some error)) :
    (rehearsal.renderLive world session).1 = .error error.fault := by
  have hguard := Session.guard_of_refused (rehearsal.render world session).1 h
  unfold renderLive
  simp only [hguard]

end Desk.Rehearsal

end Render

end PageScripts
