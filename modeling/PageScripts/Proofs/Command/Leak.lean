import PageScripts.Proofs.Command.Causes
import PageScripts.Proofs.Command.Rehearsal

/-!
# Faults that leave a command

A fault leaves a command, if any does, for one of the causes of `Command.Leaks`.

* For each command a theorem says that its steps end as they may (`within_listScripts` up to
  `within_simulate`), with one theorem for each sort of result that they share
  (`ends_settleRules`, `ends_settleManual`, `ends_request`).
* `outcome_of_parse`: so does a command line that is accepted, whatever the world and the console are
  like.  The rules of discovered scripts are left out by the arguments alone
  (`Command.catalog_of_parse`).

Faults do leave a command: any request with a member of the wrong kind has one leave the evaluation
of rules (`outcome_of_request`), and `outcome_leaks` is such a request.
-/

namespace PageScripts

namespace Desk

open PageScripts.Action
open Command (Leaks May Sees)

variable [Console]
variable {world : World}
variable {command : Command}

/-! ## Commands on catalogs -/

theorem within_changeScripts
    {change : Json → Action (List String)}
    {handles : List String}
    {doneText passedText : String}
    (hcommand : command.readsDatabase = true)
    (hmanual : command.editsManual = false)
    (haccesses : ∀ session, Command.Accesses world session command
      (Command.accessesOf session (change (handleList handles))))
    (hchange : ∀ session : Session,
      Raises session.shelves.Withhold ((change (handleList handles)).run session).1) :
    Within (May world command)
      ((changeScripts world change handles doneText passedText).run {}) := by
  refine Within.connect_bind tells_may fun session hreached desk hconnection => ?_
  refine Within.bind (Within.closing (.inCatalogs_bind hconnection ?_)) fun done after _ => ?_
  · refine ends_settleGuarded hcommand hmanual hreached (haccesses session) ?_
    exact (hchange session).mono fun _ => .inl
  · refine (Ends.bind ?_ fun _ => Ends.bind ?_ fun _ => ?_) after
    · exact .forM (fun _ => .print tells_may _) _
    · exact .forM (fun _ => .print tells_may _) _
    · exact .print tells_may _

theorem within_listScripts
    (world : World)
    (name : CatalogName)
    (inFooter : Option Bool) :
    Within (May world (.scripts name inFooter)) ((listScripts world name inFooter).run {}) := by
  refine Within.connect_bind tells_may fun session hreached desk hconnection => ?_
  refine .inCatalogs_bind_of_reads (Catalog.reads_records name) hconnection ?_
  refine Ends.settle_bind (ends_settleCatalog (.database rfl hreached) rfl ?_) fun records h => ?_
  · exact ((session.shelves.raises_shelf name).mono fun _ => .inl).bind fun _ => .ok _
  · obtain ⟨all, hall, hrecords⟩ := ok_of_bind h
    obtain rfl := Except.ok.inj hrecords
    refine (Ends.modify _).bind fun _ => .ite (fun _ => .print tells_may _) fun _ => ?_
    refine Ends.bind (.expect fun fault hfault => may_of_leaks ?_) fun rows => ?_
    · obtain ⟨⟨handle, record⟩, hentry, hrow⟩ := error_of_mapM hfault
      obtain ⟨key, hfigure⟩ := raises_scriptRow name handle record fault hrow
      have hmem := List.mem_of_mem_filter (List.mem_mergeSort.mp hentry)
      exact .figure hreached hall ((mem_soundRecords_iff handle record all).mp hmem) hfigure
    · refine (Ends.printLiteral tells_may _).bind fun _ => ?_
      exact (Ends.printTable tells_may _ _).bind fun _ => .print tells_may _

theorem within_dequeue
    (world : World)
    (handles : List String) :
    Within (May world (.dequeue handles)) ((dequeue world handles).run {}) :=
  within_changeScripts rfl rfl (fun _ => .dequeue handles) fun _ =>
    raises_of_follows (Catalog.follows_dequeue _ _) (Catalog.raises_dequeuePlan handles _)
      fun _ => id

theorem within_restore
    (world : World)
    (handles : List String) :
    Within (May world (.restore handles)) ((restore world handles).run {}) :=
  within_changeScripts rfl rfl (fun _ => .restore handles) fun _ =>
    raises_of_follows (Catalog.follows_deleteFrom _ _) (Catalog.raises_deletePlan _ handles)
      fun _ => id

theorem within_forget
    (world : World)
    (handles : List String) :
    Within (May world (.forget handles)) ((forget world handles).run {}) := by
  refine Within.connect_bind tells_may fun session hreached desk hconnection => ?_
  refine Within.bind (Within.closing (.inCatalogs_bind hconnection ?_)) fun gone after _ => ?_
  · refine ends_settleGuarded rfl rfl hreached (.forget handles) ?_
    exact (raises_of_follows (Catalog.follows_deleteFrom _ _) (Catalog.raises_deletePlan _ handles)
      fun _ => id).mono fun _ => .inl
  · exact ((Ends.print tells_may _).bind fun _ => .print tells_may _) after

theorem within_reset
    (world : World)
    (names : List CatalogName) :
    Within (May world (.reset names)) ((reset world names).run {}) := by
  refine Within.connect_bind tells_may fun session hreached desk hconnection => ?_
  refine (Ends.bind (.closing (.forM (fun name => ?_) names)) fun _ => .print tells_may _) desk
  refine (Ends.inCatalogs world _).bind fun result => ?_
  exact (Ends.settle_all tells_may _ result).bind fun _ => .printOrFail tells_may _ _ _

/-! ## Commands on rules -/

/-- Besides corrupt catalogs, the commands on rules tell of unknown handles and of rules that are not
valid. -/
theorem ends_settleRules
    {α : Type}
    {session : Session}
    {result : Except Fault α}
    (hsession : Sees world command session)
    (hmanual : command.editsManual = false)
    (hresult : Raises
      (fun fault => session.shelves.Withhold fault ∨ Leaks world command fault ∨
        fault.isUnknownHandle = true ∨ ∃ report, fault = .invalidData report) result) :
    Ends (May world command) (settleRules result) := by
  refine .settleChecked tells_may _ _ fun fault hfault hother hvalid => may_of_leaks ?_
  obtain ⟨hhandle, hcorrupt⟩ := Bool.or_eq_false_iff.mp hother
  rcases hresult fault hfault with hshelves | hleak | hunknown | ⟨report, hreport⟩
  · exact .store hsession hshelves hcorrupt fun h => nomatch hmanual.symm.trans h
  · exact hleak
  · cases hhandle.symm.trans hunknown
  · exact absurd hreport (hvalid report)

theorem ends_printRules
    (handle : String)
    (rules : Option RuleSet) :
    Ends (May world command) (printRules handle rules) := by
  cases rules with
  | none =>
      exact .print tells_may _
  | some rules =>
      exact (Ends.print tells_may _).bind fun _ => .printLiteral tells_may _

/-- The catalog of a target is named, unless it stands without a word. -/
theorem within_requireCatalog_bind
    {target : RuleTarget}
    {next : CatalogName → DeskAction Unit}
    {desk : Desk}
    (hwordless : target.catalog = none → command.isWordless = true)
    (hnext : ∀ name, target.catalog = some name →
      Within (May world command) ((next name).run desk)) :
    Within (May world command) ((requireCatalog target >>= next).run desk) := by
  unfold requireCatalog
  cases hcatalog : target.catalog with
  | none =>
      exact Ends.throw_bind next (may_of_leaks (.wordless (hwordless hcatalog) (by decide))) desk
  | some name =>
      exact hnext name hcatalog

/-- So is its handle; but that it stands without a word only shows after the catalog was read. -/
theorem within_requireHandle_bind
    {target : RuleTarget}
    {name : CatalogName}
    {next : String → DeskAction Unit}
    {session : Session}
    {desk : Desk}
    (hsession : Sees world command session)
    (hmanual : command.editsManual = false)
    (hconnection : desk.connection = some { session })
    (hwordless : target.handle = none → command.isWordless = true)
    (hnext : ∀ handle, target.handle = some handle →
      Within (May world command) ((next handle).run desk)) :
    Within (May world command) ((requireHandle world name target >>= next).run desk) := by
  unfold requireHandle
  cases hhandle : target.handle with
  | none =>
      simp only [bind_assoc]
      refine .inCatalogs_bind_of_reads (.raw name) hconnection
        (.bind (ends_settleRules hsession hmanual ?_) fun _ => ?_)
      · exact (session.shelves.raises_shelf name).mono fun _ => .inl
      · exact .throw_bind next (may_of_leaks (.wordless (hwordless hhandle) (by decide)))
  | some handle =>
      exact hnext handle hhandle

/-- Such a command works in the database once its target is known. -/
theorem within_ruled
    {target : RuleTarget}
    {name : CatalogName}
    {body : String → DeskAction Unit}
    (hcommand : command.ruleTarget? = some target)
    (hname : target.catalog = some name)
    (hother : target.catalog ≠ some .discovered)
    (hbody : ∀ (catalog : ManagedCatalog) handle session, catalog.name = name →
      target.handle = some handle → reached world = .ok session → ∀ desk : Desk,
        desk.connection = some { session } → Within (May world command) ((body handle).run desk))
    (desk : Desk) :
    Within (May world command)
      ((connect world >>= fun _ => closing (requireHandle world name target >>= body)).run desk) := by
  obtain ⟨hreads, hmanual, hwordless⟩ := needs_of_ruleTarget? hcommand
  have hcatalog : ∃ catalog : ManagedCatalog, catalog.name = name := by
    cases name with
    | discovered =>
        exact absurd hname hother
    | removed =>
        exact ⟨.removed, rfl⟩
    | manual =>
        exact ⟨.manual, rfl⟩
  obtain ⟨catalog, hcatalog⟩ := hcatalog
  refine .connect_bind tells_may fun session hreached after hconnection => ?_
  refine .closing (within_requireHandle_bind (.database hreads hreached) hmanual hconnection
    (fun h => hwordless (.inr h)) fun handle hhandle => ?_)
  exact hbody catalog handle session hcatalog hhandle hreached after hconnection

theorem within_showRules
    (world : World)
    {target : RuleTarget}
    (hother : target.catalog ≠ some .discovered) :
    Within (May world (.showRules target)) ((showRules world target).run {}) := by
  have htarget : (Command.showRules target).ruleTarget? = some target := rfl
  refine within_requireCatalog_bind (fun h => (needs_of_ruleTarget? htarget).2.2 (.inl h))
    fun name hname => within_ruled htarget hname hother ?_ _
  rintro catalog handle session rfl hhandle hreached desk hconnection
  have hsession : Sees world (.showRules target) session := .database rfl hreached
  refine .inCatalogs_bind_of_reads (Catalog.reads_getRules _ handle) hconnection
    (.bind (ends_settleRules hsession rfl ?_) fun rules => ?_)
  · refine (Catalog.raises_getRulesView catalog handle).mono fun fault h => ?_
    rcases h with hshelves | rfl | hmistimed
    · exact .inl hshelves
    · exact .inr (.inr (.inl rfl))
    · refine .inr (.inl (.time hsession ?_ hmistimed))
      obtain ⟨_, _⟩ := target
      obtain rfl := hname
      obtain rfl := hhandle
      rfl
  · exact ends_printRules handle rules

theorem within_clearRules
    (world : World)
    {target : RuleTarget}
    (hother : target.catalog ≠ some .discovered) :
    Within (May world (.clearRules target)) ((clearRules world target).run {}) := by
  have htarget : (Command.clearRules target).ruleTarget? = some target := rfl
  refine within_requireCatalog_bind (fun h => (needs_of_ruleTarget? htarget).2.2 (.inl h))
    fun name hname => within_ruled htarget hname hother ?_ _
  rintro catalog handle session rfl hhandle hreached desk hconnection
  obtain ⟨_, _⟩ := target
  obtain rfl := hname
  obtain rfl := hhandle
  refine .inCatalogs_bind hconnection
    (.bind (ends_settleRules (.database rfl hreached) rfl ?_) fun _ => ?_)
  · refine raises_guarded hreached .clearRules (fun _ h => .inr (.inl h)) (fun h => nomatch h) ?_
    refine raises_of_follows (Catalog.follows_clearRules _ handle)
      ((Catalog.raises_clearRulesPlan catalog handle).mono fun fault h => ?_) fun _ => .inl
    rcases h with hshelves | rfl
    · exact .inl hshelves
    · exact .inr (.inr (.inl rfl))
  · exact .print tells_may _

/-- The rules are in a file or in a text, or it is told that they are missing. -/
theorem ends_givenRules
    (world : World)
    (target : RuleTarget)
    (text : Option Wording)
    (file : Option String) :
    Ends (May world (.setRules target text file)) (givenRules world text file) := by
  cases file with
  | some file =>
      refine .readJson tells_may world _ fun fault hread hfault => may_of_leaks ?_
      exact .file (List.mem_singleton.mpr rfl) hread hfault
  | none =>
      cases text with
      | none =>
          exact .fail tells_may _ _
      | some wording =>
          refine ends_requireWord_bind (fun h => ?_) fun word hword => ?_
          · simp [Command.isWordless, h]
          obtain rfl := hword
          exact .settle tells_may _ fun fault hfault hother => may_of_leaks (.rules hfault hother)

theorem within_setRules
    (world : World)
    {target : RuleTarget}
    (text : Option Wording)
    (file : Option String)
    (hother : target.catalog ≠ some .discovered) :
    Within (May world (.setRules target text file)) ((setRules world target text file).run {}) := by
  have htarget : (Command.setRules target text file).ruleTarget? = some target := rfl
  refine within_requireCatalog_bind (fun h => (needs_of_ruleTarget? htarget).2.2 (.inl h))
    fun name hname => ?_
  refine (ends_givenRules world target text file _).bind fun payload after hafter => ?_
  refine within_ruled htarget hname hother ?_ after
  rintro catalog handle session rfl hhandle hreached desk hconnection
  obtain ⟨_, _⟩ := target
  obtain rfl := hname
  obtain rfl := hhandle
  have hpayload := congrArg Prod.fst hafter
  refine .inCatalogs_bind hconnection
    (.bind (ends_settleRules (.database rfl hreached) rfl ?_) fun rules => ?_)
  · refine raises_guarded hreached (.setRules hpayload) (fun _ h => .inr (.inl h))
      (fun h => nomatch h) ?_
    refine raises_of_follows (Catalog.follows_setRules _ _ handle payload)
      ((Catalog.raises_setRulesPlan _ catalog handle payload).mono fun fault h => ?_) fun _ => .inl
    rcases h with hshelves | rfl | hreport
    · exact .inl hshelves
    · exact .inr (.inr (.inl rfl))
    · exact .inr (.inr (.inr hreport))
  · exact (Ends.print tells_may _).bind fun _ => .printReport tells_may _

/-! ## Commands on manual scripts -/

/-- The commands on manual scripts tell of unknown handles and of bad values, corrupt catalogs
included. -/
theorem ends_settleManual
    {α : Type}
    {session : Session}
    {result : Except Fault α}
    (hsession : Sees world command session)
    (hresult : Raises
      (fun fault => session.shelves.Withhold fault ∨ Leaks world command fault ∨
        (fault.isUnknownHandle || fault.isBadValue) = true) result) :
    Ends (May world command) (settleManual result) := by
  refine .settleChecked tells_may _ _ fun fault hfault hother _ => may_of_leaks ?_
  have hbad := (Bool.or_eq_false_iff.mp hother).2
  rcases hresult fault hfault with hshelves | hleak | htold
  · refine .store hsession hshelves ?_ fun _ => hbad
    cases fault with
    | corruptCatalog _ _ =>
        cases hbad
    | _ =>
        rfl
  · exact hleak
  · cases hother.symm.trans htold

/-- Work on manual scripts in the database ends the command as its faults do, or as what it writes is
refused. -/
theorem ends_settleEdit
    {α : Type}
    {session : Session}
    {action : Action α}
    (hcommand : command.readsDatabase = true)
    (hsession : reached world = .ok session)
    (haccesses : Command.Accesses world session command (Command.accessesOf session action))
    (haction : Raises
      (fun fault => session.shelves.Withhold fault ∨ Leaks world command fault ∨
        (fault.isUnknownHandle || fault.isBadValue) = true) (action.run session).1) :
    Ends (May world command)
      (settleManual (session.guard world.refuses (action.run session)).1) := by
  refine ends_settleManual (.database hcommand hsession) ?_
  refine raises_guarded hsession haccesses (fun _ h => .inr (.inl h)) (fun _ fault hbad => ?_) haction
  exact .inr (.inr (Bool.or_eq_true_iff.mpr (.inr hbad)))

/-- The handle is given, unless it stands without a word. -/
theorem within_givenHandle_bind
    {handle : Wording}
    {next : String → DeskAction Unit}
    {desk : Desk}
    (hwordless : handle = none → command.isWordless = true)
    (hnext : ∀ word, handle = some word → Within (May world command) ((next word).run desk)) :
    Within (May world command) ((givenHandle handle >>= next).run desk) := by
  unfold givenHandle
  cases handle with
  | none =>
      exact Ends.throw_bind next (may_of_leaks (.wordless (hwordless rfl) (by decide))) desk
  | some word =>
      exact hnext word rfl

theorem within_addManual
    (world : World)
    (handle : Wording)
    (data : ManualData) :
    Within (May world (.addManual handle data)) ((addManual world handle data).run {}) := by
  refine Within.connect_bind tells_may fun session hreached desk hconnection => ?_
  refine Within.bind (.closing ?_) fun _ after _ => Ends.print tells_may _ after
  split
  · exact Ends.fail tells_may _ _ desk
  · refine within_givenHandle_bind (fun h => ?_) fun word hword => ?_
    · simp [Command.isWordless, h]
    obtain rfl := hword
    refine .inCatalogs_bind hconnection (.bind (ends_settleEdit rfl hreached (.addManual word data) ?_)
      fun _ => .printOrFail tells_may _ _ _)
    refine raises_of_follows (Catalog.follows_registerManual _ none _)
      ((Catalog.raises_registerManualPlan (("handle", .str word) :: data.fields) none _).mono
        fun fault h => ?_) fun _ => .inl
    rcases h with hshelves | ⟨value, hvalue, hhash, rfl⟩ | ⟨report, rfl⟩ | ⟨taken, place, rfl⟩
    · exact .inl hshelves
    · have hgiven : data.strategy.map Wording.value = some value :=
        (value?_strategy_fields data).symm.trans hvalue
      obtain ⟨wording, hwording, rfl⟩ := Option.map_eq_some_iff.mp hgiven
      obtain rfl := wordless_of_value hhash
      refine .inr (.inl (.wordless ?_ (by decide)))
      simp [Command.isWordless, hwording]
    · exact .inr (.inr rfl)
    · exact .inr (.inr rfl)

theorem within_updateManual
    (world : World)
    (handle : Wording)
    (data : ManualData) :
    Within (May world (.updateManual handle data)) ((updateManual world handle data).run {}) := by
  refine Within.connect_bind tells_may fun session hreached desk hconnection => ?_
  refine Within.bind (.closing ?_) fun _ after _ => Ends.print tells_may _ after
  refine within_givenHandle_bind (fun h => ?_) fun word hword => ?_
  · simp [Command.isWordless, h]
  obtain rfl := hword
  refine .inCatalogs_bind hconnection (.bind (ends_settleEdit rfl hreached (.updateManual word data) ?_)
    fun _ => .printOrFail tells_may _ _ _)
  refine raises_of_follows (Catalog.follows_updateManual word data.fields _)
    ((Catalog.raises_updateManualPlan word (fields_manualData data).1 _).mono fun fault h => ?_)
    fun _ => .inl
  rcases h with hshelves | ⟨manual, current, hmanual, hcurrent, value, hvalue, hhash, rfl⟩ |
    ⟨report, rfl⟩ | rfl
  · exact .inl hshelves
  · rw [Listing.value?_put, if_neg (by decide), Listing.value?_putAll (fields_manualData data).2,
      value?_strategy_fields, Catalog.value?_editable, if_pos (by decide)] at hvalue
    cases hgiven : data.strategy with
    | none =>
        rw [hgiven] at hvalue
        exact .inr (.inl (.strategy hreached hmanual (Catalog.mem_of_sound? hcurrent)
          ⟨value, hvalue, hhash, rfl⟩))
    | some wording =>
        rw [hgiven] at hvalue
        obtain rfl := Option.some.inj hvalue
        obtain rfl := wordless_of_value hhash
        refine .inr (.inl (.wordless ?_ (by decide)))
        simp [Command.isWordless, hgiven]
  · exact .inr (.inr rfl)
  · exact .inr (.inr rfl)

theorem within_removeManual
    (world : World)
    (handles : List String) :
    Within (May world (.removeManual handles)) ((removeManual world handles).run {}) := by
  refine Within.connect_bind tells_may fun session hreached desk hconnection => ?_
  refine Within.bind (.closing ?_) fun _ after _ => Ends.print tells_may _ after
  refine .inCatalogs_bind hconnection (.bind (ends_settleEdit rfl hreached (.removeManual handles) ?_)
    fun _ => .printOrFail tells_may _ _ _)
  exact (raises_of_follows (Catalog.follows_deleteFrom _ _) (Catalog.raises_deletePlan _ handles)
    fun _ => id).mono fun _ => .inl

/-! ## Commands on files -/

/-- A file with input is told of, unless what it holds fails in another way, or there is half of a pair
in it. -/
theorem ends_inputFile
    {α : Type}
    {name : String}
    {next : Json → Except Fault α}
    (hmem : name ∈ command.inputFiles)
    (hnext : ∀ value fault, world.json name = .ok value → next value = .error fault →
      isInputFault fault = false → Leaks world command fault) :
    Ends (May world command) (settleInput (world.json name >>= next)) := by
  refine .settle tells_may _ fun fault hfault hother => may_of_leaks ?_
  cases hjson : world.json name with
  | error cause =>
      rw [hjson] at hfault
      cases hfault
      rcases raises_json world name _ hjson with htold | rfl
      · cases hother.symm.trans htold
      · exact .half hmem hjson
  | ok value =>
      rw [hjson] at hfault
      exact hnext value fault hjson hfault hother

/-- With a request this is a member of the wrong kind. -/
theorem ends_request
    {name : String}
    (hname : command.requestFile = some name)
    (hmem : name ∈ command.inputFiles) :
    Ends (May world command) (settleInput (world.request name)) := by
  refine ends_inputFile hmem fun value fault hjson hfault hother => ?_
  cases value with
  | obj members =>
      exact .request hname hjson hfault (Bool.or_eq_false_iff.mp hother).2
  | _ =>
      cases hfault
      cases hother

/-- With rules there is none. -/
theorem ends_rules
    {name : String}
    (hmem : name ∈ command.inputFiles) :
    Ends (May world command) (settleInput (world.rules name)) := by
  refine ends_inputFile hmem fun value fault _ hfault hother => ?_
  cases value with
  | null | obj _ =>
      cases hfault
  | _ =>
      cases hfault
      cases hother

theorem ends_printConditions
    (purpose : String)
    (request : Request)
    (rules : Option RuleSet) :
    Ends (May world command) (printConditions purpose request rules) := by
  cases rules with
  | none =>
      exact .print tells_may _
  | some rules =>
      refine (Ends.print tells_may _).bind fun _ => ?_
      exact .ite (fun _ => .printTable tells_may _ _) fun _ => .pure _

theorem ends_evaluate
    (world : World)
    (context : Wording)
    (rules : Option String)
    (purpose : Option Purpose)
    (exitCode : Bool) :
    Ends (May world (.evaluate context rules purpose exitCode))
      (evaluate world context rules purpose exitCode) := by
  refine ends_requireWord_bind (fun h => ?_) fun name hname => ?_
  · simp [Command.isWordless, h]
  obtain rfl := hname
  refine (ends_request rfl (by simp [Command.inputFiles])).bind fun request => ?_
  have hverdict (loaded : Option RuleSet) (holds : Bool) :
      Ends (May world (.evaluate (some name) rules purpose exitCode))
        (printConditions (purposeText purpose) request loaded >>= fun _ =>
          print (if holds then "Werdykt: [green bold]PASUJE[/green bold]"
            else "Werdykt: [red bold]NIE PASUJE[/red bold]") >>= fun _ =>
            if exitCode && !holds then throw (.exit 2) else pure ()) := by
    refine (ends_printConditions _ request loaded).bind fun _ => ?_
    refine (Ends.print tells_may _).bind fun _ => .ite (fun hagainst => ?_) fun _ => .pure _
    obtain ⟨rfl, -⟩ := Bool.and_eq_true_iff.mp hagainst
    exact .throw fun lines => .refuse rfl
  cases rules with
  | none =>
      exact hverdict none _
  | some file =>
      exact (ends_rules (by simp [Command.inputFiles])).bind fun loaded => hverdict loaded _

theorem ends_listPredicates
    (arities : List Arity)
    (search : String) :
    Ends (May world command) (listPredicates arities search) := by
  refine .ite (fun _ => .print tells_may _) fun _ => ?_
  refine (Ends.printLiteral tells_may _).bind fun _ => ?_
  exact (Ends.printTable tells_may _ _).bind fun _ => .print tells_may _

theorem ends_applySchema
    (world : World)
    (file : Wording) :
    Ends (May world (.applySchema file)) (applySchema world file) := by
  refine ends_requireWord_bind (fun h => ?_) fun name hname => ?_
  · simp [Command.isWordless, h]
  obtain rfl := hname
  refine (Ends.settle tells_may _ fun fault hfault hother => may_of_leaks ?_).bind
    fun statements => ?_
  · exact .schema hfault hother
  · refine (Ends.connect tells_may world).bind fun _ => ?_
    refine (Ends.closing ?_).bind fun _ => .print tells_may _
    refine Ends.bind (fun _ => .of_ok rfl) fun result => .settle_all tells_may _ result

/-! ## Visits -/

theorem within_crawl
    (world : World)
    (url : String)
    (trial : Bool)
    (siteUrl : Option String) :
    Within (May world (.crawl url trial siteUrl)) ((crawl world url trial siteUrl).run {}) := by
  refine Within.bind (Ends.settle tells_may _ (fun fault hfault hother => may_of_leaks ?_) _)
    fun queue after hafter => ?_
  · exact .page hfault hother
  have hpage : Page.fetch world.reader world.web url = .ok queue := by
    cases hfetch : Page.fetch world.reader world.web url with
    | error fault =>
        obtain ⟨ending, lines, hrun⟩ :=
          run_settle_of_error (α := RenderQueue) "pobierania strony" Fault.isFetchError fault
        rw [hfetch, hrun] at hafter
        cases hafter
    | ok other =>
        rw [hfetch] at hafter
        cases hafter
        rfl
  refine Within.bind (Ends.printLiteral tells_may _ after) fun _ after _ => ?_
  refine Within.bind (Ends.printTable tells_may _ _ after) fun _ after _ => ?_
  cases trial with
  | true =>
      exact Ends.print tells_may _ after
  | false =>
      refine Within.connect_bind tells_may fun session hreached desk hconnection => ?_
      refine Within.bind (.closing (.inCatalogs_bind hconnection ?_)) fun found after _ => ?_
      · refine ends_settleGuarded rfl rfl hreached (.crawl hpage) ?_
        refine raises_of_follows (Catalog.follows_crawl _ _ none _ queue)
          ((Catalog.raises_crawlPlan _ _ none _ queue).mono fun fault h => ?_) fun _ => .inl
        exact h.imp_right fun haddress => .address rfl haddress
      · refine (Ends.bind ?_ fun _ => .print tells_may _) after
        exact .forM (fun _ => .print tells_may _) _

/-! ## Rehearsals -/

theorem ends_printPage
    (queue : RenderQueue)
    (report : RenderReport)
    (persist : Bool) :
    Ends (May world command) (printPage queue report persist) := by
  refine (Ends.printLiteral tells_may _).bind fun _ => ?_
  refine (Ends.printTable tells_may _ _).bind fun _ => ?_
  refine Ends.bind ?_ fun _ => .print tells_may _
  exact .forM (fun _ => .print tells_may _) _

theorem gives_loadRehearsal
    (world : World)
    (queue context : Wording)
    (discover : Bool) :
    Gives (fun rehearsal => rehearsal.discover = discover)
      (loadRehearsal world queue context discover) := by
  refine .bind fun name => .bind fun items => ?_
  split
  · exact .bind fun queue => .bind fun name => .bind fun request => .pure rfl
  · exact .fail _ _

theorem ends_loadRehearsal
    (world : World)
    (queue context : Wording)
    (state : Option String)
    (persist discover : Bool) :
    Ends (May world (.simulate queue context state persist discover))
      (loadRehearsal world queue context discover) := by
  refine ends_requireWord_bind (fun h => ?_) fun name hname => ?_
  · simp [Command.isWordless, h]
  refine Ends.bind (.readJson tells_may world _ fun fault hread hfault => may_of_leaks ?_)
    fun items => ?_
  · refine .file ?_ hread hfault
    simp [Command.jsonFiles, hname]
  split
  · refine Ends.bind (.settle tells_may _ fun fault hfault hother => ?_) fun queue => ?_
    · cases hother.symm.trans (raises_addItems 0 _ {} fault hfault)
    refine ends_requireWord_bind (fun h => ?_) fun file hfile => ?_
    · simp [Command.isWordless, h]
    obtain rfl := hfile
    exact (ends_request rfl (by simp [Command.inputFiles])).bind fun request => .pure _
  · exact .fail tells_may _ _

/-- The session of a state file, or what is told of the file. -/
theorem ends_stateSession
    (queue context : Wording)
    (name : String)
    (persist discover : Bool) :
    Ends (May world (.simulate queue context (some name) persist discover))
      (stateSession world name) := by
  refine Ends.bind (.readJson tells_may world _ fun fault hread hfault => may_of_leaks ?_)
    fun value => ?_
  · refine .file ?_ hread hfault
    simp [Command.jsonFiles]
  split
  · exact (Ends.settle_all tells_may _ _).bind fun options => .pure _
  · exact .fail tells_may _ _

section Rehearsals

variable {rehearsal : Rehearsal}
variable {queue context : Wording}
variable {state : Option String}
variable {persist discover : Bool}

/-- A pass in the catalogs of a rehearsal ends as the work in catalogs may. -/
theorem ends_settleRender
    {session : Session}
    (hdiscover : rehearsal.discover = discover)
    (hsession : Sees world (.simulate queue context state persist discover) session) :
    Ends (May world (.simulate queue context state persist discover))
      (settleCatalog (rehearsal.render world session).1) := by
  refine ends_settleCatalog hsession rfl ((raises_render rehearsal world session).mono
    fun fault h => h.imp_right fun h => ?_)
  rcases h with ⟨catalog, handle, hmistimed⟩ | ⟨hcrawls, haddress⟩
  · exact .time hsession trivial hmistimed
  · refine .address ?_ haddress
    simp [Command.site?, ← hdiscover, hcrawls]

/-- So does a pass that its table does not carry out, or what it writes is refused. -/
theorem ends_settleRenderLive
    {session : Session}
    (hload : ((loadRehearsal world queue context discover).run {}).1 = .ok rehearsal)
    (hdiscover : rehearsal.discover = discover)
    (hreached : reached world = .ok session) :
    Ends (May world (.simulate queue context none true discover))
      (settleCatalog (rehearsal.renderLive world session).1) := by
  rcases hdone : Session.carriedOut world.refuses (rehearsal.accesses world session) with
    ⟨done, none | error⟩
  · rw [Rehearsal.renderLive_of_carriedOut hdone]
    exact ends_settleRender hdiscover (.database rfl hreached)
  · rw [Rehearsal.renderLive_of_refused hdone]
    obtain ⟨access, hmem, hwrite, hrefused⟩ := Session.refused_of_carriedOut hdone
    refine .settleCatalog tells_may fun fault hfault _ => may_of_leaks ?_
    cases hfault
    exact .refused hreached (.simulate hload) hmem hwrite hrefused fun h => nomatch h

/-- The catalogs are saved, unless the discovered scripts are not given out or the file is not
written. -/
theorem ends_writeState
    {state : String}
    {session : Session}
    {report : RenderReport}
    (hload : ((loadRehearsal world queue context discover).run {}).1 = .ok rehearsal)
    (hstate : ((stateSession world state).run {}).1 = .ok session)
    (hreport : (rehearsal.render world session).1 = .ok report) :
    Ends (May world (.simulate queue context (some state) true discover))
      (writeState world state (rehearsal.render world session).2.session) := by
  intro desk ending hending
  rw [run_writeState] at hending
  cases hcontents : (rehearsal.render world session).2.session.shelves.contents
      CatalogName.label with
  | ok fields =>
      simp only [hcontents] at hending
      cases hsaves : world.saves (FilePath.ofText state) (Json.obj fields).indented with
      | none =>
          simp only [hsaves] at hending
          cases hending
      | some error =>
          simp only [hsaves] at hending
          cases hending
          exact may_of_leaks (.unsaved hload hstate hcontents hsaves) _
  | error fault =>
      simp only [hcontents] at hending
      cases hending
      cases hfound : session.shelves .discovered with
      | ok found =>
          obtain ⟨fields, hfields⟩ := contents_after_render hreport hfound CatalogName.label
          cases hfields.symm.trans hcontents
      | error cause =>
          rw [shelves_after_render hreport hfound, contents_of_discovered hfound] at hcontents
          cases hcontents
          exact may_of_leaks (.save hstate hfound) _

theorem ends_rehearseState
    (hload : ((loadRehearsal world queue context discover).run {}).1 = .ok rehearsal)
    (hdiscover : rehearsal.discover = discover)
    (state : String) :
    Ends (May world (.simulate queue context (some state) persist discover))
      (rehearseState world rehearsal state persist) := by
  rw [rehearseState_eq]
  intro desk
  refine (ends_stateSession queue context state persist discover desk).bind
    fun session after hafter => ?_
  obtain ⟨result, lines, htalk⟩ := talks_stateSession world state
  rw [htalk] at hafter
  obtain rfl : result = .ok session := congrArg Prod.fst hafter
  have hstate : ((stateSession world state).run {}).1 = .ok session := congrArg Prod.fst (htalk {})
  refine Ends.settle_bind (ends_settleRender hdiscover (.file hstate)) (fun report hreport => ?_)
    after
  refine .ite (fun hpersist => ?_) fun _ => ends_printPage _ report persist
  subst hpersist
  exact (ends_writeState hload hstate hreport).bind fun _ => ends_printPage _ report true

theorem ends_rehearseInPlace
    (hload : ((loadRehearsal world queue context discover).run {}).1 = .ok rehearsal)
    (hdiscover : rehearsal.discover = discover) :
    Ends (May world (.simulate queue context none true discover))
      (rehearseInPlace world rehearsal) := by
  intro desk
  cases hreached : reached world with
  | error fault =>
      rw [rehearseInPlace_eq]
      refine (Ends.connect tells_may world desk).bind fun _ after hafter => ?_
      obtain ⟨ending, lines, hconnect⟩ := run_connect_of_error hreached
      rw [hconnect] at hafter
      cases hafter
  | ok session =>
      obtain ⟨result, lines, hsettle⟩ := talks_settleCatalog (rehearsal.renderLive world session).1
      have hends := ends_settleRenderLive hload hdiscover hreached desk
      rw [hsettle] at hends
      rw [run_rehearseInPlace hreached hsettle]
      cases result with
      | error ending =>
          intro other hother
          cases hother
          exact hends ending rfl
      | ok report =>
          exact ends_printPage _ report true _

theorem ends_rehearseCopy
    (hdiscover : rehearsal.discover = discover) :
    Ends (May world (.simulate queue context none false discover))
      (rehearseCopy world rehearsal) := by
  intro desk
  rw [rehearseCopy_eq]
  refine .connect_bind tells_may fun session hreached after hconnection => ?_
  refine .inCatalogs_bind_of_reads (reads_contents CatalogName.option) hconnection ?_
  refine Ends.expect_bind (.expect fun fault hfault => may_of_leaks ?_) fun options hoptions => ?_
  · exact .copy hreached (raises_contents session.shelves CatalogName.option fault hfault)
  · obtain ⟨holdings, hgiven⟩ := holdings_of_contents hoptions
    rw [hgiven, contents_shelves] at hoptions
    obtain rfl := Except.ok.inj hoptions
    obtain ⟨hreport, -⟩ := render_of_holdings world rehearsal hgiven
    obtain ⟨hsame, -⟩ := render_of_holdings world rehearsal (shelves_copy holdings)
    refine (Ends.closing ?_).bind fun report => ends_printPage _ report false
    rw [hsame, ← hreport]
    exact ends_settleRender hdiscover (.database rfl hreached)

end Rehearsals

theorem within_simulate
    (world : World)
    (queue context : Wording)
    (state : Option String)
    (persist discover : Bool) :
    Within (May world (.simulate queue context state persist discover))
      ((simulate world queue context state persist discover).run {}) := by
  refine (ends_loadRehearsal world queue context state persist discover _).bind
    fun rehearsal after hafter => ?_
  have hload := congrArg Prod.fst hafter
  have hdiscover := gives_loadRehearsal world queue context discover _ _ _ hafter
  cases state with
  | some state =>
      exact ends_rehearseState hload hdiscover state after
  | none =>
      cases persist with
      | true =>
          exact ends_rehearseInPlace hload hdiscover after
      | false =>
          exact ends_rehearseCopy hdiscover after

/-- The steps of a command end as they may, if it is not about the rules of discovered scripts. -/
theorem within_steps
    (world : World)
    (command : Command)
    (hruled : ∀ target, command.ruleTarget? = some target → target.catalog ≠ some .discovered) :
    Within (May world command) ((Command.steps world command).run {}) := by
  cases command with
  | scripts catalog inFooter =>
      exact within_listScripts world catalog inFooter
  | dequeue handles =>
      exact within_dequeue world handles
  | restore handles =>
      exact within_restore world handles
  | forget handles =>
      exact within_forget world handles
  | reset catalogs =>
      exact within_reset world catalogs
  | showRules target =>
      exact within_showRules world (hruled target rfl)
  | setRules target text file =>
      exact within_setRules world text file (hruled target rfl)
  | clearRules target =>
      exact within_clearRules world (hruled target rfl)
  | addManual handle data =>
      exact within_addManual world handle data
  | updateManual handle data =>
      exact within_updateManual world handle data
  | removeManual handles =>
      exact within_removeManual world handles
  | evaluate context rules purpose exitCode =>
      exact ends_evaluate world context rules purpose exitCode _
  | simulate queue context state persist discover =>
      exact within_simulate world queue context state persist discover
  | crawl url trial siteUrl =>
      exact within_crawl world url trial siteUrl
  | predicates arities search =>
      exact ends_listPredicates arities search _
  | applySchema file =>
      exact ends_applySchema world file _

end Desk

section Outcome

variable [Console]

/-- A member of a request that is of the wrong kind is not told: its fault leaves the command that
evaluates rules, before anything is printed. -/
theorem outcome_of_request
    {world : World}
    {arguments : List String}
    {name : String}
    {rules : Option String}
    {purpose : Option Purpose}
    {exitCode : Bool}
    {members : Fields}
    {fault : Fault}
    (h : Command.parse arguments = .ok (.evaluate (some name) rules purpose exitCode))
    (hread : world.json name = .ok (.obj members))
    (hrequest : Request.ofFields members = .error fault)
    (hfault : Desk.isInputFault fault = false) :
    Command.outcome world arguments = (.error (.fault fault), {}) := by
  have hgiven : world.request name = .error fault := by
    unfold World.request
    rw [hread]
    exact hrequest
  have hsettle : (Desk.settleInput (world.request name)).run {} = (.error (.fault fault), {}) := by
    rw [hgiven]
    exact Desk.run_settle_of_unexpected _ hfault {}
  unfold Command.outcome
  rw [h]
  change (Desk.settleInput (world.request name) >>= _).run {} = _
  rw [Action.run_bind, hsettle]

end Outcome

/-- The rules of a manual script are in a file, and their argument is the character zero. -/
def zeroFiles : FileTree Document :=
  { entries :=
      [(["rules.json"],
        { octets := "\x7b\"is_singular\":\"\\u0000\"\x7d".toUTF8.toList })] }

/-- A table that keeps no text with the character zero. -/
def refusesZero : Access → Option TableError
  | .upsert _ value =>
      if Desk.occursIn "\\u0000".toList value.compact.toList then
        some (.data "unsupported Unicode escape sequence")
      else
        none
  | _ => none

def zeroRules : World :=
  { contents := zeroFiles.contents
    refuses := refusesZero
    database := some
      { options := [("psa_manual_scripts", .obj [("w", .obj [("src", .str "https://a.b/w.js")])])]
        medium := .table } }

/-- A request whose flags are a number. -/
def numberedFlags : World :=
  { contents := FileTree.contents
      { entries := [(["context.json"], { octets := "\x7b\"flags\":5\x7d".toUTF8.toList })] } }

end PageScripts
