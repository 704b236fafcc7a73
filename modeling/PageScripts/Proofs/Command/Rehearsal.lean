import PageScripts.Command.Run
import PageScripts.Proofs.Command.Copy
import PageScripts.Proofs.Command.Showing
import PageScripts.Site.Tree

/-!
# Rehearsals without effect

A page can be rendered with saving and without.  Without saving the pass works on a copy of the
catalogs, or the file they came from is not written.  The two runs are compared, each from an empty
desk and in the same world, on any lawful console.

* With the database, all catalogs are copied before the pass.  Where the copy can be made and the
  table carries out what is written, the pass comes to the same on the copy as on the catalogs
  themselves (`run_rehearseCopy`, `run_rehearseInPlace`, `rehearses_rehearseCopy`).
* With a state file the pass is the same, and only then are the catalogs saved or not
  (`run_rehearseState`, `rehearses_rehearseState`).
* Either way a page is printed alike (`rehearses_printPage`).

Copying and saving ask for all catalogs and deal with no fault, whereas the pass asks for those it
needs and a corrupt one is told.  And what is written may be refused, by the table or by the file
system.  So there are surprises (`Desk.Surprise`).  `rehearsal_faithful` says that a run without saving
leaves no trace, and that the two runs agree exactly as far as there are none; `rehearsal_surprised` is
one.
-/

namespace PageScripts

open PageScripts.Action

section Defs

namespace Desk

section Console

variable [Console]

/-- What stands in the way of one of the two runs and not of the other.

With a state file it is met by the saving after the pass: the discovered scripts, which the pass did
not ask for, are not given out, or the text is not saved.  With the database it is a catalog that is
met by the copying before the pass, or a write of the pass that the table refuses. -/
inductive Surprise
    (world : World)
    (rehearsal : Rehearsal) :
    Option String → Fault → Prop
  | inFile
      {state : String}
      {session : Session}
      {report : RenderReport}
      {fault : Fault}
      (hsession : ((stateSession world state).run {}).1 = .ok session)
      (hreport : (rehearsal.render world session).1 = .ok report)
      (hfound : session.shelves .discovered = .error fault) :
      Surprise world rehearsal (some state) fault
  | unsaved
      {state : String}
      {session : Session}
      {report : RenderReport}
      {fields : Fields}
      {error : SaveError}
      (hsession : ((stateSession world state).run {}).1 = .ok session)
      (hreport : (rehearsal.render world session).1 = .ok report)
      (hcontents : (rehearsal.render world session).2.session.shelves.contents CatalogName.label =
        .ok fields)
      (hsaves : world.saves (FilePath.ofText state) (Json.obj fields).indented = some error) :
      Surprise world rehearsal (some state) (error.fault (FilePath.ofText state))
  | inDatabase
      {session : Session}
      {fault : Fault}
      (hsession : reached world = .ok session)
      (hcontents : session.shelves.contents CatalogName.option = .error fault)
      (hother : fault.isCorruptCatalog = true ∨
        (rehearsal.renderLive world session).1 ≠ .error fault) :
      Surprise world rehearsal none fault
  | refused
      {session : Session}
      {fields : Fields}
      {report : RenderReport}
      {done : List Access}
      {error : TableError}
      (hsession : reached world = .ok session)
      (hcontents : session.shelves.contents CatalogName.option = .ok fields)
      (hreport : (rehearsal.render world session).1 = .ok report)
      (hrefused : Session.carriedOut world.refuses (rehearsal.accesses world session) =
        (done, some error)) :
      Surprise world rehearsal none error.fault

/-- The second half of a rehearsal: rendering with the catalogs of a state file or of the database. -/
def rehearse
    (world : World)
    (rehearsal : Rehearsal)
    (state : Option String)
    (persist : Bool) :
    DeskAction Unit :=
  match state with
  | some state => rehearseState world rehearsal state persist
  | none => if persist then rehearseInPlace world rehearsal else rehearseCopy world rehearsal

end Console

/-- Nothing was written: no file, and no option of the database. -/
def Untouched
    (world : World)
    (desk : Desk) : Prop :=
  desk.written = [] ∧
    ∀ connection, desk.connection = some connection →
      ∃ session, world.database = some session ∧ session.ReadFrom connection.session

/-- What a run did is known to its end: it did not come upon half of a pair of code units, which is
where the texts of files and options are no longer followed. -/
def Followed (run : Except Ending Unit × Desk) : Prop :=
  run.1 ≠ .error (.fault .loneSurrogate)

end Desk

end Defs

namespace Desk

section Traces

/-- The catalogs of a session are written to the state file, if they are all given out and the text
is saved. -/
theorem run_writeState
    (world : World)
    (name : String)
    (session : Session)
    (desk : Desk) :
    (writeState world name session).run desk =
      match session.shelves.contents CatalogName.label with
      | .error fault => (.error (.fault fault), desk)
      | .ok fields =>
          let path := FilePath.ofText name
          let text := (Json.obj fields).indented
          match world.saves path text with
          | some error => (.error (.fault (error.fault path)), desk)
          | none => (.ok (), { desk with written := desk.written ++ [{ path, text }] }) := by
  have hwrite : writeState world name session =
      expect ((Catalog.contents CatalogName.label).run session).1 >>= fun contents =>
        writeFile world name (Json.obj contents).indented := rfl
  rw [hwrite, (reads_contents CatalogName.label).result]
  cases session.shelves.contents CatalogName.label with
  | error fault =>
      rfl
  | ok fields =>
      simp only [expect, run_bind, run_done, writeFile]
      cases world.saves (FilePath.ofText name) (Json.obj fields).indented <;> rfl

/-- Talking leaves no trace. -/
theorem untouched_say
    (world : World)
    {desk : Desk}
    (hwritten : desk.written = [])
    (hconnection : desk.connection = none)
    (lines : List String) :
    Untouched world (desk.say lines) := by
  refine ⟨hwritten, fun connection h => ?_⟩
  cases hconnection.symm.trans h

/-- The desk with a connection that has been closed. -/
def closedOn
    (session : Session)
    (desk : Desk) :
    Desk :=
  { desk with connection := some { session, closed := true } }

/-- Nor does a connection that was only read from. -/
theorem untouched_closedOn
    {world : World}
    {session after : Session}
    (hdatabase : world.database = some session)
    (hread : session.ReadFrom after)
    {desk : Desk}
    (hwritten : desk.written = []) :
    Untouched world (closedOn after desk) := by
  refine ⟨hwritten, fun connection hconnection => ⟨session, hdatabase, ?_⟩⟩
  cases hconnection
  exact hread

end Traces

variable [Console]

section Runs

variable {world : World}

theorem talks_settleCatalog
    {α : Type}
    (result : Except Fault α) :
    Talks (settleCatalog result) :=
  talks_settle _ _ result

theorem talks_settleInput
    {α : Type}
    (result : Except Fault α) :
    Talks (settleInput result) :=
  talks_settle _ _ result

theorem talks_loadRehearsal
    (world : World)
    (queue context : Wording)
    (discover : Bool) :
    Talks (loadRehearsal world queue context discover) := by
  refine (talks_requireWord queue).bind fun name => ?_
  refine (talks_readJson world _ name).bind fun items => ?_
  split
  · refine (talks_settleInput _).bind fun queue => ?_
    refine (talks_requireWord context).bind fun name => ?_
    exact (talks_settleInput _).bind fun request => .pure _
  · exact talks_fail _ _

theorem talks_stateSession
    (world : World)
    (name : String) :
    Talks (stateSession world name) := by
  refine (talks_readJson world _ name).bind fun value => ?_
  split
  · exact (talks_settle _ _ _).bind fun options => .pure _
  · exact talks_fail _ _

theorem rehearseState_eq
    (world : World)
    (rehearsal : Rehearsal)
    (state : String)
    (persist : Bool) :
    rehearseState world rehearsal state persist =
      stateSession world state >>= fun session =>
        settleCatalog (rehearsal.render world session).1 >>= fun report =>
          (if persist then
            writeState world state (rehearsal.render world session).2.session >>= fun _ =>
              printPage (rehearsal.render world session).2.queue report persist
          else
            printPage (rehearsal.render world session).2.queue report persist) := by
  cases persist <;> rfl

theorem rehearseInPlace_eq
    (world : World)
    (rehearsal : Rehearsal) :
    rehearseInPlace world rehearsal =
      connect world >>= fun _ =>
        closing (get >>= fun desk =>
          let session := (desk.connection.map Connection.session).getD {}
          modify (withConnection fun connection =>
            { connection with session := (rehearsal.renderLive world session).2.session }) >>=
              fun _ =>
                settleCatalog (rehearsal.renderLive world session).1 >>= fun report =>
                  pure (report, (rehearsal.renderLive world session).2.queue)) >>= fun page =>
          printPage page.2 page.1 true :=
  rfl

theorem rehearseCopy_eq
    (world : World)
    (rehearsal : Rehearsal) :
    rehearseCopy world rehearsal =
      connect world >>= fun _ =>
        inCatalogs world (Catalog.contents CatalogName.option) >>= fun contents =>
          expect contents >>= fun options =>
            closing (settleCatalog (rehearsal.render world { options }).1) >>= fun report =>
              printPage (rehearsal.render world { options }).2.queue report false :=
  rfl

variable {rehearsal : Rehearsal}
variable {session : Session}

theorem run_rehearseInPlace
    (h : reached world = .ok session)
    {result : Except Ending RenderReport}
    {lines : List String}
    (hsettle : ∀ desk, (settleCatalog (rehearsal.renderLive world session).1).run desk =
      (result, desk.say lines))
    (desk : Desk) :
    let page := (rehearsal.renderLive world session).2
    (rehearseInPlace world rehearsal).run desk =
      match result with
      | .error ending => (.error ending, closedOn page.session (desk.say lines))
      | .ok report => (printPage page.queue report true).run
          (closedOn page.session (desk.say lines)) := by
  intro page
  simp only [rehearseInPlace_eq, run_bind, run_connect h, run_closing, run_look, run_change,
    withConnection, Option.map_some, Option.getD_some, hsettle]
  cases result with
  | error ending =>
      rfl
  | ok report =>
      rfl

/-- A catalog that is not given out ends the copying, whatever it holds. -/
theorem run_rehearseCopy_of_error
    (rehearsal : Rehearsal)
    (h : reached world = .ok session)
    {fault : Fault}
    (hcontents : session.shelves.contents CatalogName.option = .error fault)
    (desk : Desk) :
    ∃ after, session.ReadFrom after ∧
      (rehearseCopy world rehearsal).run desk =
        (.error (.fault fault), { desk with connection := some { session := after } }) := by
  have hread := reads_contents CatalogName.option
  refine ⟨_, hread.readFrom session, ?_⟩
  simp only [rehearseCopy_eq, run_bind, run_connect h, run_inCatalogs_of_reads world hread,
    hcontents]
  rfl

/-- The pass on a copy comes to what the pass on the catalogs themselves comes to, if the table does
not stand in its way. -/
theorem run_rehearseCopy
    (h : reached world = .ok session)
    {holdings : Holdings}
    (hgiven : session.shelves = holdings.shelves)
    {result : Except Ending RenderReport}
    {lines : List String}
    (hsettle : ∀ desk, (settleCatalog (rehearsal.render world session).1).run desk =
      (result, desk.say lines))
    (desk : Desk) :
    ∃ after, session.ReadFrom after ∧
      (rehearseCopy world rehearsal).run desk =
        match result with
        | .error ending => (.error ending, closedOn after (desk.say lines))
        | .ok report => (printPage (rehearsal.render world session).2.queue report false).run
            (closedOn after (desk.say lines)) := by
  have hread := reads_contents CatalogName.option
  have hcontents := contents_shelves holdings CatalogName.option
  rw [← hgiven] at hcontents
  obtain ⟨hreport, hqueue⟩ := render_of_holdings world rehearsal hgiven
  obtain ⟨hsame, hcopied⟩ := render_of_holdings world rehearsal (shelves_copy holdings)
  refine ⟨_, hread.readFrom session, ?_⟩
  simp only [rehearseCopy_eq, run_bind, run_connect h, run_inCatalogs_of_reads world hread,
    hcontents, expect, run_done, run_closing, hsame, hcopied, ← hreport, ← hqueue, hsettle]
  cases result with
  | error ending =>
      rfl
  | ok report =>
      rfl

theorem talks_rehearseState
    (world : World)
    (rehearsal : Rehearsal)
    (state : String) :
    Talks (rehearseState world rehearsal state false) := by
  rw [rehearseState_eq]
  refine (talks_stateSession world state).bind fun session => ?_
  exact (talks_settleCatalog _).bind fun report => talks_printPage _ report false

/-- A pass on a copy leaves no trace. -/
theorem untouched_rehearseCopy
    (world : World)
    (rehearsal : Rehearsal)
    {desk : Desk}
    (hwritten : desk.written = [])
    (hconnection : desk.connection = none) :
    Untouched world ((rehearseCopy world rehearsal).run desk).2 := by
  cases hreached : reached world with
  | error fault =>
      obtain ⟨ending, lines, hrun⟩ := run_connect_of_error hreached
      simp only [rehearseCopy_eq, run_bind, hrun]
      exact untouched_say world hwritten hconnection lines
  | ok session =>
      have hdatabase := database_of_reached hreached
      cases hcontents : session.shelves.contents CatalogName.option with
      | error fault =>
          obtain ⟨after, hread, hrun⟩ := run_rehearseCopy_of_error rehearsal hreached hcontents desk
          rw [hrun]
          refine ⟨hwritten, fun connection h => ⟨session, hdatabase, ?_⟩⟩
          cases h
          exact hread
      | ok fields =>
          obtain ⟨holdings, hgiven⟩ := holdings_of_contents hcontents
          obtain ⟨result, lines, hsettle⟩ := talks_settleCatalog (rehearsal.render world session).1
          obtain ⟨after, hread, hrun⟩ := run_rehearseCopy hreached hgiven hsettle desk
          rw [hrun]
          cases result with
          | error ending =>
              exact untouched_closedOn hdatabase hread hwritten
          | ok report =>
              obtain ⟨_, more, hpage⟩ := talks_printPage
                (rehearsal.render world session).2.queue report false
              simp only [hpage]
              exact untouched_closedOn hdatabase hread hwritten

/-- A run that does not save leaves no trace. -/
theorem untouched_rehearse
    (world : World)
    (rehearsal : Rehearsal)
    (state : Option String)
    {desk : Desk}
    (hwritten : desk.written = [])
    (hconnection : desk.connection = none) :
    Untouched world ((rehearse world rehearsal state false).run desk).2 := by
  cases state with
  | some state =>
      obtain ⟨result, lines, hrun⟩ := talks_rehearseState world rehearsal state
      simp only [rehearse, hrun]
      exact untouched_say world hwritten hconnection lines
  | none =>
      exact untouched_rehearseCopy world rehearsal hwritten hconnection

/-- Where the state file is read and the pass comes to a report, the page follows, after the saving if
there is any. -/
theorem run_rehearseState
    {state : String}
    {report : RenderReport}
    (hsession : ((stateSession world state).run {}).1 = .ok session)
    (hreport : (rehearsal.render world session).1 = .ok report) :
    let page := (rehearsal.render world session).2
    ∃ lines, ∀ persist desk,
      (rehearseState world rehearsal state persist).run desk =
        (if persist then
          writeState world state page.session >>= fun _ => printPage page.queue report persist
        else
          printPage page.queue report persist).run (desk.say lines) := by
  obtain ⟨result, lines, hrun⟩ := talks_stateSession world state
  rw [hrun] at hsession
  obtain rfl : result = .ok session := hsession
  refine ⟨lines, fun persist desk => ?_⟩
  simp only [rehearseState_eq, settleCatalog, run_bind, hrun, hreport, run_settle_of_ok]

/-- With a state file, the pass is the same; then the catalogs are saved or not. -/
theorem rehearses_rehearseState
    [LawfulConsole]
    {state : String}
    (h : ∀ fault, ¬ Surprise world rehearsal (some state) fault)
    (desk : Desk) :
    Rehearses ((rehearseState world rehearsal state false).run desk)
      ((rehearseState world rehearsal state true).run desk) := by
  obtain ⟨result, lines, hsession⟩ := talks_stateSession world state
  cases result with
  | error ending =>
      simp only [rehearseState_eq, run_bind, hsession]
      exact rehearses_of_ending rfl
  | ok session =>
      have hstate : ((stateSession world state).run {}).1 = .ok session :=
        congrArg Prod.fst (hsession {})
      cases hreport : (rehearsal.render world session).1 with
      | error fault =>
          obtain ⟨ending, told, hsettle⟩ :=
            run_settle_of_error (α := RenderReport) "katalogu" Fault.isCorruptCatalog fault
          simp only [rehearseState_eq, run_bind, hsession, settleCatalog, hreport, hsettle]
          exact rehearses_of_ending rfl
      | ok report =>
          obtain ⟨lines, hrun⟩ := run_rehearseState hstate hreport
          cases hfound : session.shelves .discovered with
          | error fault =>
              exact absurd (.inFile hstate hreport hfound) (h fault)
          | ok found =>
              obtain ⟨fields, hfields⟩ :=
                contents_after_render hreport hfound CatalogName.label
              cases hsaves : world.saves (FilePath.ofText state) (Json.obj fields).indented with
              | some error =>
                  exact absurd (.unsaved hstate hreport hfields hsaves) (h _)
              | none =>
                  simp only [hrun, if_neg Bool.false_ne_true, if_true, run_bind, run_writeState,
                    hfields, hsaves]
                  exact rehearses_printPage _ report rfl

/-- Where all catalogs are given out and nothing is refused, the pass on the catalogs themselves is
carried out. -/
theorem renderLive_eq_render
    (h : ∀ fault, ¬ Surprise world rehearsal none fault)
    (hreached : reached world = .ok session)
    {fields : Fields}
    (hcontents : session.shelves.contents CatalogName.option = .ok fields) :
    rehearsal.renderLive world session = rehearsal.render world session := by
  cases hreport : (rehearsal.render world session).1 with
  | error fault =>
      exact Rehearsal.renderLive_of_error hreport
  | ok report =>
      rcases hdone : Session.carriedOut world.refuses (rehearsal.accesses world session) with
        ⟨done, none | error⟩
      · exact Rehearsal.renderLive_of_carriedOut hdone
      · exact absurd (.refused hreached hcontents hreport hdone) (h _)

/-- With the database, the pass on the copy and the one on the catalogs themselves end alike. -/
theorem rehearses_rehearseCopy
    [LawfulConsole]
    (h : ∀ fault, ¬ Surprise world rehearsal none fault)
    (hreached : reached world = .ok session)
    (desk : Desk) :
    Rehearses ((rehearseCopy world rehearsal).run desk)
      ((rehearseInPlace world rehearsal).run desk) := by
  cases hcontents : session.shelves.contents CatalogName.option with
  | error fault =>
      have hother := mt (Surprise.inDatabase hreached hcontents) (h fault)
      obtain ⟨hcorrupt, hsame⟩ := not_or.mp hother
      have hsettle : ∀ desk,
          (settleCatalog (rehearsal.renderLive world session).1).run desk =
            (.error (.fault fault), desk.say []) := by
        intro desk
        rw [not_not.mp hsame, say_nil]
        exact run_settle_of_unexpected "katalogu" (Bool.not_eq_true _ ▸ hcorrupt) desk
      obtain ⟨after, -, hrun⟩ := run_rehearseCopy_of_error rehearsal hreached hcontents desk
      rw [hrun, run_rehearseInPlace hreached hsettle]
      exact rehearses_of_ending (congrArg Desk.lines (say_nil desk)).symm
  | ok fields =>
      have hsame := renderLive_eq_render h hreached hcontents
      obtain ⟨holdings, hgiven⟩ := holdings_of_contents hcontents
      obtain ⟨result, lines, hsettle⟩ := talks_settleCatalog (rehearsal.render world session).1
      obtain ⟨after, -, hrun⟩ := run_rehearseCopy hreached hgiven hsettle desk
      rw [hrun, run_rehearseInPlace hreached (hsame ▸ hsettle)]
      cases result with
      | error ending =>
          exact rehearses_of_ending rfl
      | ok report =>
          exact rehearses_printPage (rehearsal.render world session).2.queue report rfl

/-- Without a surprise the second halves of the two runs end alike. -/
theorem rehearses_rehearse
    [LawfulConsole]
    {state : Option String}
    (h : ∀ fault, ¬ Surprise world rehearsal state fault)
    (desk : Desk) :
    Rehearses ((rehearse world rehearsal state false).run desk)
      ((rehearse world rehearsal state true).run desk) := by
  cases state with
  | some state =>
      exact rehearses_rehearseState h desk
  | none =>
      simp only [rehearse, if_neg Bool.false_ne_true, if_true]
      cases hreached : reached world with
      | error fault =>
          obtain ⟨ending, lines, hconnect⟩ := run_connect_of_error hreached
          simp only [rehearseCopy_eq, rehearseInPlace_eq, run_bind, hconnect]
          exact rehearses_of_ending rfl
      | ok session =>
          exact rehearses_rehearseCopy h hreached desk

/-- A fault goes through the handling of corrupt catalogs only if it is of another sort. -/
theorem error_of_settleCatalog
    {α : Type}
    {result : Except Fault α}
    {desk : Desk}
    {fault : Fault}
    (h : ((settleCatalog result).run desk).1 = .error (.fault fault)) :
    fault.isCorruptCatalog = false ∧ result = .error fault := by
  cases result with
  | ok a =>
      cases h
  | error cause =>
      cases hcause : cause.isCorruptCatalog with
      | false =>
          rw [settleCatalog, run_settle_of_unexpected "katalogu" hcause] at h
          cases h
          exact ⟨hcause, rfl⟩
      | true =>
          obtain ⟨ending, lines, htelling, hrun⟩ :=
            run_settle_of_expected (α := α) "katalogu" hcause
          rw [settleCatalog, hrun] at h
          rcases htelling with rfl | ⟨shown, why, -, rfl⟩ <;> cases h

/-- A fault of the pass on the catalogs themselves is the one that the run ends with, unless it is
told. -/
theorem error_of_rehearseInPlace
    (hsession : reached world = .ok session)
    {desk : Desk}
    {fault : Fault}
    (h : ((rehearseInPlace world rehearsal).run desk).1 = .error (.fault fault)) :
    fault.isCorruptCatalog = false ∧ (rehearsal.renderLive world session).1 = .error fault := by
  obtain ⟨result, lines, hsettle⟩ := talks_settleCatalog (rehearsal.renderLive world session).1
  rw [run_rehearseInPlace hsession hsettle] at h
  cases result with
  | ok report =>
      exact absurd h (ne_fault_of_printPage _ report true _ fault)
  | error ending =>
      cases h
      exact error_of_settleCatalog (congrArg Prod.fst (hsettle desk))

/-- With a surprise, one of the two runs ends with its fault and the other does not. -/
theorem differ_of_surprise
    {state : Option String}
    {fault : Fault}
    (h : Surprise world rehearsal state fault)
    (desk : Desk) :
    ¬ (((rehearse world rehearsal state false).run desk).1 = .error (.fault fault) ↔
      ((rehearse world rehearsal state true).run desk).1 = .error (.fault fault)) := by
  cases h with
  | @inFile state session report _ hsession hreport hfound =>
      have hcontents : (rehearsal.render world session).2.session.shelves.contents
          CatalogName.label = .error fault := by
        rw [shelves_after_render hreport hfound]
        exact contents_of_discovered hfound
      obtain ⟨lines, hrun⟩ := run_rehearseState hsession hreport
      simp only [rehearse, hrun, if_neg Bool.false_ne_true, if_true, run_bind, run_writeState,
        hcontents, iff_true]
      exact ne_fault_of_printPage _ report false _ fault
  | @unsaved state session report fields error hsession hreport hcontents hsaves =>
      obtain ⟨lines, hrun⟩ := run_rehearseState hsession hreport
      simp only [rehearse, hrun, if_neg Bool.false_ne_true, if_true, run_bind, run_writeState,
        hcontents, hsaves, iff_true]
      exact ne_fault_of_printPage _ report false _ _
  | @inDatabase session _ hsession hcontents hother =>
      obtain ⟨after, -, hdry⟩ := run_rehearseCopy_of_error rehearsal hsession hcontents desk
      simp only [rehearse, if_neg Bool.false_ne_true, if_true, hdry, true_iff]
      intro hlive
      obtain ⟨hnot, hsame⟩ := error_of_rehearseInPlace hsession hlive
      rcases hother with hcorrupt | hdiffers
      · rw [hcorrupt] at hnot
        cases hnot
      · exact hdiffers hsame
  | @refused session fields report done error hsession hcontents hreport hrefused =>
      obtain ⟨holdings, hgiven⟩ := holdings_of_contents hcontents
      have hsettle : ∀ desk, (settleCatalog (rehearsal.render world session).1).run desk =
          (.ok report, desk.say []) := by
        intro desk
        rw [hreport, say_nil]
        rfl
      have hended : ∀ desk, (settleCatalog (rehearsal.renderLive world session).1).run desk =
          (.error (.fault error.fault), desk.say []) := by
        intro desk
        rw [Rehearsal.renderLive_of_refused hrefused, say_nil]
        exact run_settle_of_unexpected "katalogu" (by cases error <;> rfl) desk
      obtain ⟨after, -, hdry⟩ := run_rehearseCopy hsession hgiven hsettle desk
      simp only [rehearse, if_neg Bool.false_ne_true, if_true, hdry,
        run_rehearseInPlace hsession hended, iff_true]
      exact ne_fault_of_printPage _ report false _ _

end Runs

end Desk

section Simulation

open Desk

section Any

variable [Console]

theorem simulate_eq
    (world : World)
    (queue context : Wording)
    (state : Option String)
    (persist discover : Bool) :
    Command.steps world (.simulate queue context state persist discover) =
      loadRehearsal world queue context discover >>= fun rehearsal =>
        rehearse world rehearsal state persist := by
  cases state <;> rfl

/-- A rehearsal without saving leaves no trace.  Where both runs can be followed to their ends, it
ends as the one with saving does and shows the same page, unless something takes one of the two by
surprise; then one of them ends with its fault and the other does not. -/
theorem rehearsal_faithful
    [LawfulConsole]
    (world : World)
    (queue context : Wording)
    (state : Option String)
    (discover : Bool) :
    let dry := (Command.steps world (.simulate queue context state false discover)).run {}
    let live := (Command.steps world (.simulate queue context state true discover)).run {}
    let loaded := ((loadRehearsal world queue context discover).run {}).1
    Untouched world dry.2 ∧
      (Followed dry → Followed live →
        ((∀ rehearsal fault, loaded = .ok rehearsal → ¬ Surprise world rehearsal state fault) →
          Rehearses dry live) ∧
        ∀ rehearsal fault, loaded = .ok rehearsal → Surprise world rehearsal state fault →
          ¬ (dry.1 = .error (.fault fault) ↔ live.1 = .error (.fault fault))) := by
  intro dry live loaded
  obtain ⟨result, lines, hload⟩ := talks_loadRehearsal world queue context discover
  have hloaded : loaded = result := congrArg Prod.fst (hload {})
  have hrun (persist : Bool) :
      (Command.steps world (.simulate queue context state persist discover)).run {} =
        match result with
        | .error ending => (.error ending, ({} : Desk).say lines)
        | .ok rehearsal => (rehearse world rehearsal state persist).run (({} : Desk).say lines) := by
    rw [simulate_eq, run_bind, hload]
    cases result <;> rfl
  simp only [dry, live, hloaded, hrun]
  cases result with
  | error ending =>
      refine ⟨untouched_say world rfl rfl lines,
        fun _ _ => ⟨fun _ => rehearses_of_ending rfl, ?_⟩⟩
      intro rehearsal fault h
      cases h
  | ok rehearsal =>
      refine ⟨untouched_rehearse world rehearsal state rfl rfl, fun _ _ => ⟨fun hnone => ?_, ?_⟩⟩
      · exact rehearses_rehearse (fun fault => hnone rehearsal fault rfl) _
      · rintro _ fault ⟨⟩ hsurprise
        exact differ_of_surprise hsurprise _

end Any

/-- A queue with one script, and a request of somebody who may manage the site. -/
def shopFiles : FileTree Document :=
  { entries :=
      [ (["queue.json"],
          { octets := "[\x7b\"handle\":\"app\",\"src\":\"https://a.b/app.js\"\x7d]".toUTF8.toList }),
        (["context.json"], { octets := "\x7b\"can_manage\":true\x7d".toUTF8.toList }) ] }

/-- A database that is empty yet. -/
def emptyShop : World :=
  { contents := shopFiles.contents, database := some { medium := .table } }

/-- Both runs come to the end.  The one with saving writes the script down, the other one does not. -/
theorem rehearsal_faithful_shop :
    let simulate persist :=
      (Command.steps emptyShop
        (.simulate (some "queue.json") (some "context.json") none persist true)).run {}
    (simulate false).1 = .ok () ∧ Untouched emptyShop (simulate false).2 ∧
      Rehearses (simulate false) (simulate true) ∧
      (simulate true).2.connection.map (fun connection => connection.session.options.keys) =
        some [CatalogName.option .discovered] := by
  intro simulate
  have hdry : (simulate false).1 = .ok () := by
    decide +kernel
  have hlive : (simulate true).1 = .ok () := by
    decide +kernel
  have hwritten : (simulate true).2.connection.map
      (fun connection => connection.session.options.keys) =
        some [CatalogName.option .discovered] := by
    decide +kernel
  have hnone : ∀ rehearsal fault, ¬ Surprise emptyShop rehearsal none fault := by
    intro rehearsal fault hsurprise
    cases hsurprise with
    | inDatabase hsession hcontents hother =>
        cases database_of_reached hsession
        cases hcontents
    | refused hsession hcontents hreport hrefused =>
        obtain ⟨access, -, -, herror⟩ := Session.refused_of_carriedOut hrefused
        cases herror
  obtain ⟨huntouched, hends⟩ :=
    rehearsal_faithful emptyShop (some "queue.json") (some "context.json") none true
  have hfollowed : Followed (simulate false) ∧ Followed (simulate true) := by
    simp [Followed, hdry, hlive]
  obtain ⟨hrehearses, -⟩ := hends hfollowed.1 hfollowed.2
  exact ⟨hdry, huntouched, hrehearses fun rehearsal fault _ => hnone rehearsal fault, hwritten⟩

/-- The catalog of manual scripts is a number. -/
def numberedCatalog : World :=
  { contents := shopFiles.contents
    database := some { options := [("psa_manual_scripts", .int 3)], medium := .table } }

/-- The number takes the rehearsal without saving by surprise: it ends with a fault, where the one
with saving tells what is wrong. -/
theorem rehearsal_surprised :
    ((Command.steps numberedCatalog
        (.simulate (some "queue.json") (some "context.json") none false true)).run {}).1 =
      .error (.fault (.corruptCatalog .manual .int)) ∧
    ((Command.steps numberedCatalog
        (.simulate (some "queue.json") (some "context.json") none true true)).run {}).1 =
      .error (.exit 1) := by
  decide +kernel

end Simulation

end PageScripts
