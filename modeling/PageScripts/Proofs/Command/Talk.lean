import PageScripts.Command.Desk
import PageScripts.Proofs.Action

/-!
# Steps that only talk

Most steps of a command read their input and print: what they do to the desk is to add lines, and
neither these nor the result rest on what is on the desk.  The others are few, and for each of them
there is an equation that says how it runs.  All of this holds with any console.

* `Talks`: the step only adds lines.  There is one rule for each way of putting steps together.
* `run_connect`, `run_closing` and `run_inCatalogs`: the steps that are about the database.
-/

namespace PageScripts

/-- The desk with more lines. -/
def Desk.say
    (desk : Desk)
    (lines : List String) :
    Desk :=
  { desk with lines := desk.lines ++ lines }

namespace Desk

open PageScripts.Action

variable {α β : Type}

@[simp]
theorem say_nil (desk : Desk) :
    desk.say [] = desk := by
  simp [say]

@[simp]
theorem say_say
    (desk : Desk)
    (first second : List String) :
    (desk.say first).say second = desk.say (first ++ second) := by
  simp [say]

theorem run_look (desk : Desk) :
    (get : DeskAction Desk).run desk = (.ok desk, desk) :=
  rfl

theorem run_change
    (change : Desk → Desk)
    (desk : Desk) :
    (modify change : DeskAction Unit).run desk = (.ok (), change desk) :=
  rfl

theorem run_done
    (result : α)
    (desk : Desk) :
    (pure result : DeskAction α).run desk = (.ok result, desk) :=
  rfl

/-! ## Talking -/

/-- The step only adds lines, whatever is on the desk. -/
def Talks (step : DeskAction α) : Prop :=
  ∃ result lines, ∀ desk, step.run desk = (result, desk.say lines)

theorem Talks.of_result (result : Except Ending α) :
    Talks (ExceptT.mk (pure result) : DeskAction α) :=
  ⟨result, [], fun desk => by rw [say_nil]; rfl⟩

theorem Talks.pure (result : α) :
    Talks (pure result : DeskAction α) :=
  .of_result (.ok result)

theorem Talks.throw (ending : Ending) :
    Talks (throw ending : DeskAction α) :=
  .of_result (.error ending)

theorem Talks.bind
    {step : DeskAction α}
    {next : α → DeskAction β}
    (hstep : Talks step)
    (hnext : ∀ a, Talks (next a)) :
    Talks (step >>= next) := by
  obtain ⟨result, lines, hrun⟩ := hstep
  cases result with
  | error ending =>
      refine ⟨.error ending, lines, fun desk => ?_⟩
      rw [run_bind, hrun]
  | ok a =>
      obtain ⟨result, more, hrest⟩ := hnext a
      refine ⟨result, lines ++ more, fun desk => ?_⟩
      rw [run_bind, hrun]
      simp only [hrest, say_say]

theorem Talks.ite
    {condition : Prop}
    [Decidable condition]
    {first second : DeskAction α}
    (hfirst : Talks first)
    (hsecond : Talks second) :
    Talks (if condition then first else second) := by
  by_cases h : condition
  · rwa [if_pos h]
  · rwa [if_neg h]

/-! ## What the steps say -/

theorem talks_expect (result : Except Fault α) :
    Talks (expect result) := by
  cases result with
  | error fault =>
      exact .throw (.fault fault)
  | ok a =>
      exact .pure a

theorem talks_requireWord (word : Option String) :
    Talks (requireWord word) :=
  talks_expect _

section Printing

variable [Console]

/-- How a command ends that tells why: with exit status one, unless the console does not show what it
is handed. -/
def Telling (ending : Ending) : Prop :=
  ending = .exit 1 ∨
    ∃ shown why, Console.render shown = .error why ∧ ending = .unshown shown why

theorem run_display
    (shown : Shown)
    (desk : Desk) :
    (display shown).run desk =
      match Console.render shown with
      | .error why => (.error (.unshown shown why), desk)
      | .ok lines => (.ok (), desk.say lines) := by
  unfold display
  cases Console.render shown <;> rfl

theorem talks_display (shown : Shown) :
    Talks (display shown) := by
  cases hrender : Console.render shown with
  | error why =>
      refine ⟨.error (.unshown shown why), [], fun desk => ?_⟩
      simp only [run_display, hrender, say_nil]
  | ok lines =>
      refine ⟨.ok (), lines, fun desk => ?_⟩
      simp only [run_display, hrender]

theorem run_print
    (text : String)
    (desk : Desk) :
    (print text).run desk =
      match Console.render (.styled text) with
      | .error why => (.error (.unshown (.styled text) why), desk)
      | .ok lines => (.ok (), desk.say lines) :=
  run_display (.styled text) desk

/-- One thing after another is handed to the console, up to the first that it does not show. -/
theorem run_forM_display
    (shown : α → Shown)
    (items : List α) :
    (∃ a ∈ items, ∃ why lines, Console.render (shown a) = .error why ∧ ∀ desk,
      (items.forM fun a => display (shown a)).run desk =
        (.error (.unshown (shown a) why), desk.say lines)) ∨
    ∃ lines, (items.mapM fun a => Console.render (shown a)) = .ok lines ∧ ∀ desk,
      (items.forM fun a => display (shown a)).run desk = (.ok (), desk.say lines.flatten) := by
  induction items with
  | nil =>
      exact .inr ⟨[], rfl, fun desk => by rw [List.flatten_nil, say_nil]; rfl⟩
  | cons first rest ih =>
      have hrun (desk : Desk) : ((first :: rest).forM fun a => display (shown a)).run desk =
          (display (shown first) >>= fun _ => rest.forM fun a => display (shown a)).run desk := rfl
      simp only [hrun, run_bind, run_display, List.mapM_cons]
      cases hfirst : Console.render (shown first) with
      | error why =>
          exact .inl ⟨first, List.mem_cons_self, why, [], hfirst, fun desk => by rw [say_nil]⟩
      | ok lines =>
          rcases ih with ⟨a, hmem, why, more, hwhy, hrest⟩ | ⟨more, hmore, hrest⟩
          · refine .inl ⟨a, List.mem_cons_of_mem first hmem, why, lines ++ more, hwhy, fun desk => ?_⟩
            simp only [hrest, say_say]
          · refine .inr ⟨lines :: more, ?_, fun desk => ?_⟩
            · rw [hmore]
              rfl
            · simp only [hrest, say_say, List.flatten_cons]

/-- The message that tells what went wrong. -/
def messageText (what text : String) : String :=
  "[red]Błąd " ++ what ++ ":[/red] " ++ text

theorem run_fail
    (what text : String)
    (desk : Desk) :
    (fail what text : DeskAction α).run desk =
      match Console.render (.styled (messageText what text)) with
      | .error why => (.error (.unshown (.styled (messageText what text)) why), desk)
      | .ok lines => (.error (.exit 1), desk.say lines) := by
  have hrun : (fail what text : DeskAction α).run desk =
      (print (messageText what text) >>= fun _ => throw (.exit 1) : DeskAction α).run desk := rfl
  rw [hrun, run_bind, run_print]
  cases Console.render (.styled (messageText what text)) <;> rfl

/-- To fail is to tell why, and to end. -/
theorem telling_fail (what text : String) :
    ∃ ending lines, Telling ending ∧ ∀ desk,
      (fail what text : DeskAction α).run desk = (.error ending, desk.say lines) := by
  cases hrender : Console.render (.styled (messageText what text)) with
  | error why =>
      refine ⟨.unshown _ why, [], .inr ⟨_, why, hrender, rfl⟩, fun desk => ?_⟩
      simp only [run_fail, hrender, say_nil]
  | ok lines =>
      refine ⟨.exit 1, lines, .inl rfl, fun desk => ?_⟩
      simp only [run_fail, hrender]

theorem talks_fail (what text : String) :
    Talks (fail what text : DeskAction α) := by
  obtain ⟨ending, lines, -, hrun⟩ := telling_fail (α := α) what text
  exact ⟨.error ending, lines, hrun⟩

theorem talks_settle
    (what : String)
    (expected : Fault → Bool)
    (result : Except Fault α) :
    Talks (settle what expected result) := by
  cases result with
  | error fault =>
      exact (talks_fail what _).ite (.throw _)
  | ok a =>
      exact .pure a

/-- A fault of the expected sort is told. -/
theorem run_settle_of_expected
    (what : String)
    {expected : Fault → Bool}
    {fault : Fault}
    (h : expected fault = true) :
    ∃ ending lines, Telling ending ∧ ∀ desk,
      (settle what expected (.error fault : Except Fault α)).run desk =
        (.error ending, desk.say lines) := by
  have hsettle : (settle what expected (.error fault) : DeskAction α) =
      fail what fault.message := if_pos h
  rw [hsettle]
  exact telling_fail what fault.message

/-- A fault of another sort goes through. -/
theorem run_settle_of_unexpected
    (what : String)
    {expected : Fault → Bool}
    {fault : Fault}
    (h : expected fault = false)
    (desk : Desk) :
    (settle what expected (.error fault : Except Fault α)).run desk =
      (.error (.fault fault), desk) := by
  have hsettle : (settle what expected (.error fault) : DeskAction α) =
      throw (.fault fault) := if_neg (by rw [h]; decide)
  rw [hsettle]
  rfl

/-- Told or not, a fault ends the command. -/
theorem run_settle_of_error
    (what : String)
    (expected : Fault → Bool)
    (fault : Fault) :
    ∃ ending lines, ∀ desk,
      (settle what expected (.error fault : Except Fault α)).run desk =
        (.error ending, desk.say lines) := by
  cases h : expected fault with
  | false =>
      refine ⟨.fault fault, [], fun desk => ?_⟩
      rw [run_settle_of_unexpected what h, say_nil]
  | true =>
      obtain ⟨ending, lines, -, hrun⟩ := run_settle_of_expected (α := α) what h
      exact ⟨ending, lines, hrun⟩

theorem run_settle_of_ok
    (what : String)
    (expected : Fault → Bool)
    (result : α)
    (desk : Desk) :
    (settle what expected (.ok result)).run desk = (.ok result, desk) :=
  rfl

theorem talks_readJson
    (world : World)
    (what name : String) :
    Talks (readJson world what name) := by
  unfold readJson
  simp only
  split
  · exact (talks_fail what _).ite (.throw _)
  · split
    · exact .pure _
    · exact (talks_fail what _).ite (.throw _)

end Printing

/-! ## The database -/

/-- The session of the database that the environment describes, if it can be reached. -/
def reached (world : World) : Except Fault Session := do
  let _ ← Database.ofEnvironment world.environment
  match world.database with
  | some session => .ok session
  | none => .error .connection

theorem database_of_reached
    {world : World}
    {session : Session}
    (h : reached world = .ok session) :
    world.database = some session := by
  obtain ⟨_, -, hrest⟩ := ok_of_bind h
  cases hdatabase : world.database with
  | none =>
      rw [hdatabase] at hrest
      cases hrest
  | some other =>
      rw [hdatabase] at hrest
      rw [Except.ok.inj hrest]

section Connecting

variable [Console]

theorem connect_eq (world : World) :
    connect world =
      settle "połączenia z bazą" (fun _ => true) (reached world) >>= fun session =>
        modify fun desk => { desk with connection := some { session } } :=
  rfl

/-- If the database is reached, its session is on the desk. -/
theorem run_connect
    {world : World}
    {session : Session}
    (h : reached world = .ok session)
    (desk : Desk) :
    (connect world).run desk = (.ok (), { desk with connection := some { session } }) := by
  rw [connect_eq, h]
  rfl

/-- Otherwise the step tells why it is not. -/
theorem run_connect_of_error
    {world : World}
    {fault : Fault}
    (h : reached world = .error fault) :
    ∃ ending lines, ∀ desk, (connect world).run desk = (.error ending, desk.say lines) := by
  obtain ⟨ending, lines, hsettle⟩ :=
    run_settle_of_error (α := Session) "połączenia z bazą" (fun _ => true) fault
  refine ⟨ending, lines, fun desk => ?_⟩
  rw [connect_eq, h, run_bind, hsettle]

end Connecting

theorem run_closing
    (step : DeskAction α)
    (desk : Desk) :
    (closing step).run desk =
      ((step.run desk).1,
        withConnection (fun connection => { connection with closed := true }) (step.run desk).2) :=
  rfl

/-- Work in the session of the connection leaves the rest of the desk. -/
theorem run_inCatalogs
    (world : World)
    (action : Action α)
    (connection : Connection)
    (lines : List String)
    (written : List WrittenFile) :
    let work :=
      Session.guard world.refuses connection.session (action.run connection.session)
    (inCatalogs world action).run { lines, connection := some connection, written } =
      (.ok work.1,
        { lines, connection := some { connection with session := work.2 }, written }) :=
  rfl

/-- If the work only reads, the table carries it out. -/
theorem run_inCatalogs_of_reads
    (world : World)
    {action : Action α}
    {view : Shelves → Except Fault α}
    (h : Reads action view)
    (connection : Connection)
    (lines : List String)
    (written : List WrittenFile) :
    (inCatalogs world action).run { lines, connection := some connection, written } =
      (.ok (view connection.session.shelves),
        { lines
          connection := some { connection with session := (action.run connection.session).2 }
          written }) := by
  obtain ⟨reads, notices, hreads, hrun⟩ := h connection.session
  rw [run_inCatalogs, hrun]
  simp only [Session.guard_of_reads connection.session notices hreads]

end Desk
end PageScripts
