import PageScripts.Command.Run
import PageScripts.Proofs.Command.Talk

/-!
# How steps may end

A step that does not come to its end is left with an ending, and with the lines that were printed
until then.  `Ends ways step` says which endings with which lines there may be; it is found along
the text of the step, with one rule for each way of putting steps together.

The rules are about any `ways` that allow what all commands do: to tell of a fault and to end with
exit status one, and to end where the console does not show what it is handed (`Ways.Tells`).
-/

namespace PageScripts

/-- The faults of a file of JSON that is there and is not malformed: it cannot be read, its text is no
text, or there is too long a number in it, or half of a pair of code units. -/
inductive Fault.OfFile : Fault → Prop
  | unread
      {what : FileError}
      (path : String)
      (hwhat : what.isAbsence = false) :
      OfFile (.file what path)
  | text :
      OfFile .malformedText
  | longNumeral (digits : Nat) :
      OfFile (.longNumeral digits)
  | loneSurrogate :
      OfFile .loneSurrogate

/-- Text that holds no JSON value is malformed, or there is too long a number in it, or half of a
pair. -/
theorem Fault.OfFile.of_read
    {text : String}
    {fault : Fault}
    (h : Json.read text = .error fault)
    (hother : fault.isMalformedJson = false) :
    fault = .loneSurrogate ∨ ∃ digits, fault = .longNumeral digits := by
  unfold Json.read at h
  split at h
  · cases h
  · cases h
    cases hother
  · cases h
    exact .inr ⟨_, rfl⟩
  · cases h
    exact .inl rfl

theorem Fault.OfFile.of_value
    {octets : List UInt8}
    {fault : Fault}
    (h : Input.value octets = .error fault)
    (hother : fault.isMalformedJson = false) :
    fault.OfFile := by
  cases htext : Input.text octets with
  | error cause =>
      have hcause : cause = .malformedText := by
        unfold Input.text at htext
        split at htext
        · cases htext
        · cases htext
          rfl
      rw [Input.value, htext] at h
      cases h
      exact hcause ▸ .text
  | ok text =>
      rw [Input.value, htext] at h
      rcases Fault.OfFile.of_read h hother with rfl | ⟨digits, rfl⟩
      · exact .loneSurrogate
      · exact .longNumeral digits

/-- A file that is there may still not be read. -/
theorem Fault.OfFile.of_octets
    {world : World}
    {name : String}
    {fault : Fault}
    (h : world.octets name = .error fault)
    (hthere : fault.isAbsence = false) :
    fault.OfFile := by
  unfold World.octets at h
  simp only at h
  split at h
  · cases h
    cases hthere
  · split at h
    · cases h
    · cases h
      exact .unread _ hthere

namespace Desk

open PageScripts.Action

variable {α β : Type}

/-- Endings, each with the lines that may have been printed. -/
abbrev Ways := Ending → List String → Prop

section Defs

variable [Console]

/-- A message is the last thing that was printed. -/
def Told (lines : List String) : Prop :=
  ∃ before what text shown,
    Console.render (.styled (messageText what text)) = .ok shown ∧ lines = before ++ shown

/-- A fault may be told with exit status one, and the console may not show what it is handed. -/
structure Ways.Tells (ways : Ways) : Prop where
  told : ∀ lines, Told lines → ways (.exit 1) lines
  unshown :
    ∀ shown why, Console.render shown = .error why → ∀ lines, ways (.unshown shown why) lines

end Defs

/-- What came out of a step is one of the ways, if it is an ending. -/
def Within
    (ways : Ways)
    (outcome : Except Ending α × Desk) : Prop :=
  ∀ ending, outcome.1 = .error ending → ways ending outcome.2.lines

/-- The step ends in one of the ways, if it does not come to its end. -/
def Ends
    (ways : Ways)
    (step : DeskAction α) : Prop :=
  ∀ desk, Within ways (step.run desk)

variable {ways : Ways}

/-! ## Rules -/

theorem Within.of_ok
    {outcome : Except Ending α × Desk}
    {result : α}
    (h : outcome.1 = .ok result) :
    Within ways outcome := by
  intro ending hending
  cases h.symm.trans hending

theorem Within.bind
    {step : DeskAction α}
    {next : α → DeskAction β}
    {desk : Desk}
    (hstep : Within ways (step.run desk))
    (hnext : ∀ a after, step.run desk = (.ok a, after) → Within ways ((next a).run after)) :
    Within ways ((step >>= next).run desk) := by
  rw [run_bind]
  rcases hrun : step.run desk with ⟨ending | a, after⟩
  · rw [hrun] at hstep
    intro other hother
    cases hother
    exact hstep ending rfl
  · exact hnext a after hrun

theorem Ends.pure (result : α) :
    Ends ways (pure result : DeskAction α) :=
  fun _ => .of_ok rfl

theorem Ends.throw
    {ending : Ending}
    (h : ∀ lines, ways ending lines) :
    Ends ways (throw ending : DeskAction α) := by
  intro desk other hother
  cases hother
  exact h desk.lines

/-- Nothing follows a step that ends the command. -/
theorem Ends.throw_bind
    {ending : Ending}
    (next : α → DeskAction β)
    (h : ∀ lines, ways ending lines) :
    Ends ways (MonadExcept.throw ending >>= next) :=
  fun desk => Ends.throw (α := β) h desk

theorem Ends.bind
    {step : DeskAction α}
    {next : α → DeskAction β}
    (hstep : Ends ways step)
    (hnext : ∀ a, Ends ways (next a)) :
    Ends ways (step >>= next) :=
  fun desk => (hstep desk).bind fun a after _ => hnext a after

theorem Ends.ite
    {condition : Prop}
    [Decidable condition]
    {first second : DeskAction α}
    (hfirst : condition → Ends ways first)
    (hsecond : ¬ condition → Ends ways second) :
    Ends ways (if condition then first else second) := by
  by_cases h : condition
  · rw [if_pos h]
    exact hfirst h
  · rw [if_neg h]
    exact hsecond h

theorem Ends.forM
    {step : α → DeskAction Unit}
    (h : ∀ a, Ends ways (step a))
    (items : List α) :
    Ends ways (items.forM step) := by
  induction items with
  | nil =>
      exact .pure ()
  | cons first rest ih =>
      exact (h first).bind fun _ => ih

theorem Ends.modify (change : Desk → Desk) :
    Ends ways (modify change) :=
  fun _ => .of_ok rfl

/-- Closing the connection is no ending, and prints nothing. -/
theorem Within.closing
    {step : DeskAction α}
    {desk : Desk}
    (h : Within ways (step.run desk)) :
    Within ways ((closing step).run desk) := by
  rw [run_closing]
  exact h

theorem Ends.closing
    {step : DeskAction α}
    (h : Ends ways step) :
    Ends ways (closing step) :=
  fun desk => (h desk).closing

/-- A fault that is let through is one of the ways. -/
theorem Ends.expect
    {result : Except Fault α}
    (h : ∀ fault, result = .error fault → ∀ lines, ways (.fault fault) lines) :
    Ends ways (expect result) := by
  cases result with
  | error fault =>
      exact .throw (h fault rfl)
  | ok a =>
      exact .pure a

/-- Work in catalogs hands its faults over. -/
theorem Ends.inCatalogs
    (world : World)
    (action : Action α) :
    Ends ways (inCatalogs world action) := by
  rintro ⟨lines, connection, written⟩
  cases connection <;> exact .of_ok rfl

/-- Work in the session of a connection comes to what it comes to there. -/
theorem Within.inCatalogs_bind
    {world : World}
    {action : Action α}
    {next : Except Fault α → DeskAction β}
    {desk : Desk}
    {connection : Connection}
    (hconnection : desk.connection = some connection)
    (hnext : Ends ways (next
      (Session.guard world.refuses connection.session (action.run connection.session)).1)) :
    Within ways ((inCatalogs world action >>= next).run desk) := by
  obtain ⟨lines, _, written⟩ := desk
  obtain rfl := hconnection
  rw [run_bind, run_inCatalogs]
  exact hnext _

/-- Work that only reads comes to what the catalogs give. -/
theorem Within.inCatalogs_bind_of_reads
    {world : World}
    {action : Action α}
    {view : Shelves → Except Fault α}
    (haction : Reads action view)
    {next : Except Fault α → DeskAction β}
    {desk : Desk}
    {connection : Connection}
    (hconnection : desk.connection = some connection)
    (hnext : Ends ways (next (view connection.session.shelves))) :
    Within ways ((inCatalogs world action >>= next).run desk) := by
  obtain ⟨lines, _, written⟩ := desk
  obtain rfl := hconnection
  rw [run_bind, run_inCatalogs_of_reads world haction]
  exact hnext _

/-- What follows a result is done with its value. -/
theorem Ends.expect_bind
    {result : Except Fault α}
    {next : α → DeskAction β}
    (h : Ends ways (Desk.expect result))
    (hnext : ∀ a, result = .ok a → Ends ways (next a)) :
    Ends ways (Desk.expect result >>= next) := by
  cases result with
  | error fault =>
      refine fun desk => (h desk).bind fun a after hafter => ?_
      cases congrArg Prod.fst hafter
  | ok a =>
      exact hnext a rfl

theorem Ends.settle_bind
    [Console]
    {what : String}
    {expected : Fault → Bool}
    {result : Except Fault α}
    {next : α → DeskAction β}
    (h : Ends ways (Desk.settle what expected result))
    (hnext : ∀ a, result = .ok a → Ends ways (next a)) :
    Ends ways (Desk.settle what expected result >>= next) := by
  cases result with
  | error fault =>
      obtain ⟨ending, lines, hrun⟩ := run_settle_of_error (α := α) what expected fault
      refine fun desk => (h desk).bind fun a after hafter => ?_
      rw [hrun] at hafter
      cases hafter
  | ok a =>
      exact hnext a rfl

/-! ## What all commands do -/

theorem Ends.printLines (lines : List String) :
    Ends ways (printLines lines) :=
  .modify _

section Tells

variable [Console]
variable (hways : ways.Tells)

include hways

theorem Ends.display (shown : Shown) :
    Ends ways (display shown) := by
  intro desk ending hending
  rw [run_display] at hending ⊢
  cases hrender : Console.render shown with
  | error why =>
      rw [hrender] at hending
      cases hending
      exact hways.unshown shown why hrender _
  | ok lines =>
      rw [hrender] at hending
      cases hending

theorem Ends.print (text : String) :
    Ends ways (print text) :=
  .display hways (.styled text)

theorem Ends.printTable
    (columns : List Table.Column)
    (rows : List (List Table.Cell)) :
    Ends ways (printTable columns rows) :=
  .display hways (.table columns rows)

theorem Ends.printLiteral (text : String) :
    Ends ways (printLiteral text) :=
  .display hways (.literal text)

theorem Ends.fail (what text : String) :
    Ends ways (Desk.fail what text : DeskAction α) := by
  intro desk ending hending
  rw [run_fail] at hending ⊢
  cases hrender : Console.render (.styled (messageText what text)) with
  | error why =>
      rw [hrender] at hending
      cases hending
      exact hways.unshown _ why hrender _
  | ok shown =>
      rw [hrender] at hending
      cases hending
      exact hways.told _ ⟨desk.lines, what, text, shown, hrender, rfl⟩

theorem Ends.printOrFail
    (what : String)
    (expected : Fault → Bool)
    (text : String) :
    Ends ways (printOrFail what expected text) := by
  unfold Desk.printOrFail
  cases hrender : Console.render (.styled text) with
  | error why =>
      exact .ite (fun _ => .fail hways _ _) fun _ => .throw (hways.unshown _ why hrender)
  | ok lines =>
      exact .printLines lines

/-- A fault of the expected sort is told; any other has to be one of the ways. -/
theorem Ends.settle
    (what : String)
    {expected : Fault → Bool}
    {result : Except Fault α}
    (h : ∀ fault, result = .error fault → expected fault = false →
      ∀ lines, ways (.fault fault) lines) :
    Ends ways (Desk.settle what expected result) := by
  cases result with
  | error fault =>
      refine .ite (fun _ => .fail hways what _) fun hother => .throw ?_
      exact h fault rfl (Bool.not_eq_true _ ▸ hother)
  | ok a =>
      exact .pure a

/-- Where all faults are expected, none goes through. -/
theorem Ends.settle_all
    (what : String)
    (result : Except Fault α) :
    Ends ways (Desk.settle what (fun _ => true) result) :=
  .settle hways what fun _ _ hother => absurd hother Bool.noConfusion

theorem Ends.settleCatalog
    {result : Except Fault α}
    (h : ∀ fault, result = .error fault → fault.isCorruptCatalog = false →
      ∀ lines, ways (.fault fault) lines) :
    Ends ways (Desk.settleCatalog result) :=
  .settle hways _ h

theorem Ends.printReport (report : Report) :
    Ends ways (Desk.printReport report) := by
  have hwarnings : Ends ways (report.warnings.forM fun warning =>
      Desk.print ("[yellow]Ostrzeżenie:[/yellow] " ++ warning.message)) :=
    .forM (fun _ => .print hways _) _
  refine .ite (fun _ => ?_) fun _ => hwarnings
  exact (Ends.printTable hways _ _).bind fun _ => hwarnings

theorem Ends.settleChecked
    (subject what : String)
    {expected : Fault → Bool}
    {result : Except Fault α}
    (h : ∀ fault, result = .error fault → expected fault = false →
      (∀ report, fault ≠ .invalidData report) → ∀ lines, ways (.fault fault) lines) :
    Ends ways (Desk.settleChecked subject what expected result) := by
  unfold Desk.settleChecked
  split
  · exact (Ends.printReport hways _).bind fun _ => .fail hways _ _
  · rename_i hdata
    refine .settle hways what fun fault hfault hother => h fault hfault hother fun report heq => ?_
    exact hdata report (heq ▸ hfault)

/-! ## Input -/

/-- A file that is there is left as it was; what may be wrong with it besides being no JSON has to
be one of the ways. -/
theorem Ends.readJson
    (world : World)
    (what : String)
    {name : String}
    (h : ∀ fault, world.json name = .error fault → fault.OfFile →
      ∀ lines, ways (.fault fault) lines) :
    Ends ways (Desk.readJson world what name) := by
  unfold World.json at h
  unfold Desk.readJson
  simp only
  split
  · rename_i fault hoctets
    refine .ite (fun _ => .fail hways _ _) fun hthere => .throw ?_
    refine h fault ?_ (.of_octets hoctets (Bool.not_eq_true _ ▸ hthere))
    rw [hoctets]
    rfl
  · rename_i octets hoctets
    split
    · exact .pure _
    · rename_i fault hvalue
      refine .ite (fun _ => .fail hways _ _) fun hother => .throw ?_
      refine h fault ?_ (.of_value hvalue (Bool.not_eq_true _ ▸ hother))
      rw [hoctets]
      exact hvalue

/-! ## The database -/

theorem Ends.connect (world : World) :
    Ends ways (Desk.connect world) := by
  rw [connect_eq]
  exact (Ends.settle_all hways _ _).bind fun _ => .modify _

/-- Once the database is reached, its session is on the desk; that it is not is told. -/
theorem Within.connect_bind
    {world : World}
    {next : DeskAction β}
    {desk : Desk}
    (h : ∀ session, reached world = .ok session → ∀ after : Desk,
      after.connection = some { session } → Within ways (next.run after)) :
    Within ways ((connect world >>= fun _ => next).run desk) := by
  cases hreached : reached world with
  | error fault =>
      obtain ⟨ending, lines, hrun⟩ := run_connect_of_error hreached
      refine (Ends.connect hways world desk).bind fun _ after hafter => ?_
      rw [hrun] at hafter
      cases hafter
  | ok session =>
      rw [run_bind, run_connect hreached]
      exact h session hreached _ rfl

end Tells

/-! ## What steps give -/

/-- All that the step may give is good. -/
def Gives
    (good : α → Prop)
    (step : DeskAction α) : Prop :=
  ∀ desk a after, step.run desk = (.ok a, after) → good a

variable {good : α → Prop}

theorem Gives.pure
    {result : α}
    (h : good result) :
    Gives good (pure result : DeskAction α) := by
  intro desk a after hrun
  cases hrun
  exact h

theorem Gives.bind
    {step : DeskAction β}
    {next : β → DeskAction α}
    (h : ∀ b, Gives good (next b)) :
    Gives good (step >>= next) := by
  intro desk a after hrun
  rw [run_bind] at hrun
  rcases hstep : step.run desk with ⟨ending | b, between⟩
  · rw [hstep] at hrun
    cases hrun
  · rw [hstep] at hrun
    exact h b between a after hrun

/-- A step that fails gives nothing. -/
theorem Gives.fail
    [Console]
    (what text : String) :
    Gives good (fail what text) := by
  intro desk a after hrun
  obtain ⟨ending, lines, -, hfail⟩ := telling_fail (α := α) what text
  rw [hfail] at hrun
  cases hrun

end Desk
end PageScripts
