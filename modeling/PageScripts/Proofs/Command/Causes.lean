import PageScripts.Command.Run
import PageScripts.Proofs.Catalog.Faults
import PageScripts.Proofs.Catalog.Written
import PageScripts.Proofs.Command.Choices
import PageScripts.Proofs.Command.Copy
import PageScripts.Proofs.Command.Ways

/-!
# Why a fault leaves a command

A command deals with the faults it expects: it tells what is wrong and ends with exit status one.
Each command expects faults of some sorts from some of its steps, and a step may fail in other ways
than the command thinks of.

* `Command.Leaks`: the causes for which a fault leaves a command, one constructor for each: what is
  in an argument, in a file, on a page, in the store or in a record that the command does not deal
  with, and what it writes that is refused.
* `Command.May`: how a command may end before its last step, on any console.
* What single steps may fail at, apart from all commands (`raises_scriptRow` up to `raises_render`).
* `ends_settleCatalog` and `ends_settleGuarded`: work in catalogs ends a command as it may.
-/

namespace PageScripts

section Defs

namespace Command

/-- The commands that read catalogs of the database. -/
def readsDatabase : Command → Bool
  | .reset _ | .evaluate _ _ _ _ | .predicates _ _ | .applySchema _ => false
  | .simulate _ _ state _ _ => state.isNone
  | .crawl _ trial _ => !trial
  | _ => true

/-- The commands on manual scripts. -/
def editsManual : Command → Bool
  | .addManual _ _ | .updateManual _ _ | .removeManual _ => true
  | _ => false

/-- Whether a place where a word has to be stands without one. -/
def isWordless : Command → Bool
  | .showRules target | .clearRules target => target.catalog.isNone || target.handle.isNone
  | .setRules target text file =>
      target.catalog.isNone || target.handle.isNone || (text == some none && file.isNone)
  | .addManual handle data | .updateManual handle data =>
      handle.isNone || data.strategy == some none
  | .evaluate context _ _ _ => context.isNone
  | .simulate queue context _ _ _ => queue.isNone || context.isNone
  | .applySchema file => file.isNone
  | _ => false

/-- The files of JSON that a command reads, but for the one with the request. -/
def jsonFiles : Command → List String
  | .setRules _ _ file => file.toList
  | .simulate queue _ state _ _ => queue.toList ++ state.toList
  | _ => []

/-- The file with the request. -/
def requestFile : Command → Wording
  | .evaluate context _ _ _ => context
  | .simulate _ context _ _ _ => context
  | _ => none

/-- The site whose scripts a command writes down. -/
def site?
    (world : World) :
    Command → Option Site
  | .crawl _ _ siteUrl => some (Desk.visitedSite world siteUrl)
  | .simulate _ _ _ _ discover => if discover then some world.site else none
  | _ => none

/-- Whether a command makes the records of a managed catalog into scripts to work with them. -/
def Manages
    (catalog : ManagedCatalog)
    (handle : String) :
    Command → Prop
  | .showRules target => target = { catalog := catalog.name, handle }
  | .simulate _ _ _ _ _ => True
  | _ => False

/-- Accesses to the options that come from work in a session. -/
def accessesOf
    {α : Type}
    (session : Session)
    (action : Action α) :
    List Access :=
  (action.run session).2.accesses.drop session.accesses.length

variable [Console]

/-- The accesses to the options of the database that a command comes to, if it may write. -/
inductive Accesses
    (world : World)
    (session : Session) :
    Command → List Access → Prop
  | dequeue (handles : List String) :
      Accesses world session (.dequeue handles)
        (accessesOf session (Catalog.dequeue (Desk.handleList handles) world.now))
  | restore (handles : List String) :
      Accesses world session (.restore handles)
        (accessesOf session (Catalog.restore (Desk.handleList handles)))
  | forget (handles : List String) :
      Accesses world session (.forget handles)
        (accessesOf session (Catalog.forget (Desk.handleList handles)))
  | setRules
      {name : CatalogName}
      {handle : String}
      {text : Option Wording}
      {file : Option String}
      {payload : Json}
      (hpayload : ((Desk.givenRules world text file).run {}).1 = .ok payload) :
      Accesses world session (.setRules { catalog := name, handle } text file)
        (accessesOf session (Catalog.setRules Vocabulary.registry name handle payload))
  | clearRules
      {name : CatalogName}
      {handle : String} :
      Accesses world session (.clearRules { catalog := name, handle })
        (accessesOf session (Catalog.clearRules name handle))
  | addManual
      (handle : String)
      (data : ManualData) :
      Accesses world session (.addManual (some handle) data)
        (accessesOf session
          (Catalog.registerManual (.obj (("handle", .str handle) :: data.fields)) none world.now))
  | updateManual
      (handle : String)
      (data : ManualData) :
      Accesses world session (.updateManual (some handle) data)
        (accessesOf session (Catalog.updateManual handle data.fields world.now))
  | removeManual (handles : List String) :
      Accesses world session (.removeManual handles)
        (accessesOf session (Catalog.removeManual (Desk.handleList handles)))
  | crawl
      {url : String}
      {siteUrl : Option String}
      {queue : RenderQueue}
      (hpage : Page.fetch world.reader world.web url = .ok queue) :
      Accesses world session (.crawl url false siteUrl)
        (accessesOf session
          (Catalog.crawl (Desk.visitedSite world siteUrl) (Desk.visitRequest url) none world.now
            queue))
  | simulate
      {queue context : Wording}
      {discover : Bool}
      {rehearsal : Desk.Rehearsal}
      (hload : ((Desk.loadRehearsal world queue context discover).run {}).1 = .ok rehearsal) :
      Accesses world session (.simulate queue context none true discover)
        (rehearsal.accesses world session)

/-- The catalogs that a command reads: those of the database or of a state file. -/
inductive Sees (world : World) : Command → Session → Prop
  | database
      {command : Command}
      {session : Session}
      (hcommand : command.readsDatabase = true)
      (hreached : Desk.reached world = .ok session) :
      Sees world command session
  | file
      {queue context : Wording}
      {name : String}
      {persist discover : Bool}
      {session : Session}
      (hstate : ((Desk.stateSession world name).run {}).1 = .ok session) :
      Sees world (.simulate queue context (some name) persist discover) session

/-- The faults of an argument without a word. -/
def wordlessFaults : List Fault :=
  [.wrongKind .arr, .unknownCatalog (.arr []), .noHandle]

/-- The ways in which a fault leaves a command although every command should tell what is wrong. -/
inductive Leaks (world : World) : Command → Fault → Prop
  /-- An argument stands without its word. -/
  | wordless
      {command : Command}
      {fault : Fault}
      (hcommand : command.isWordless = true)
      (hfault : fault ∈ wordlessFaults) :
      Leaks world command fault
  /-- A file of JSON is there, and is neither readable nor malformed. -/
  | file
      {command : Command}
      {name : String}
      {fault : Fault}
      (hname : name ∈ command.jsonFiles)
      (hread : world.json name = .error fault)
      (hfault : fault.OfFile) :
      Leaks world command fault
  /-- The rules that are given as a text hold too long a number, or half of a pair. -/
  | rules
      {target : RuleTarget}
      {text : String}
      {fault : Fault}
      (hread : Json.read text = .error fault)
      (hfault : fault.isMalformedJson = false) :
      Leaks world (.setRules target (some (some text)) none) fault
  /-- There is half of a pair in a file that the command reads. -/
  | half
      {command : Command}
      {name : String}
      (hname : name ∈ command.inputFiles)
      (hread : world.json name = .error .loneSurrogate) :
      Leaks world command .loneSurrogate
  /-- A request has a member of the wrong kind. -/
  | request
      {command : Command}
      {name : String}
      {members : Fields}
      {fault : Fault}
      (hname : command.requestFile = some name)
      (hread : world.json name = .ok (.obj members))
      (hrequest : Request.ofFields members = .error fault)
      (hfault : fault.isBadValue = false) :
      Leaks world command fault
  /-- The statements of a schema are no text, or its name is no name of a file. -/
  | schema
      {name : String}
      {fault : Fault}
      (hread : world.text name = .error fault)
      (hfault : fault.isFileError = false) :
      Leaks world (.applySchema (some name)) fault
  /-- Asking for a page fails beyond what is expected of the web, or its markup or its addresses
  cannot be read. -/
  | page
      {url : String}
      {trial : Bool}
      {siteUrl : Option String}
      {fault : Fault}
      (hfetch : Page.fetch world.reader world.web url = .error fault)
      (hfault : fault.isFetchError = false) :
      Leaks world (.crawl url trial siteUrl) fault
  /-- The store gives a catalog out neither as an object nor as a corrupt one. -/
  | store
      {command : Command}
      {session : Session}
      {fault : Fault}
      (hsession : Sees world command session)
      (hshelves : session.shelves.Withhold fault)
      (hfault : fault.isCorruptCatalog = false)
      (hmanual : command.editsManual = true → fault.isBadValue = false) :
      Leaks world command fault
  /-- A catalog stands in the way of the copy for a rehearsal. -/
  | copy
      {queue context : Wording}
      {discover : Bool}
      {session : Session}
      {fault : Fault}
      (hsession : Desk.reached world = .ok session)
      (hshelves : session.shelves.Withhold fault) :
      Leaks world (.simulate queue context none false discover) fault
  /-- The discovered scripts stand in the way of saving a state. -/
  | save
      {queue context : Wording}
      {state : String}
      {discover : Bool}
      {session : Session}
      {fault : Fault}
      (hsession : ((Desk.stateSession world state).run {}).1 = .ok session)
      (hfound : session.shelves .discovered = .error fault) :
      Leaks world (.simulate queue context (some state) true discover) fault
  /-- The state that a rehearsal comes to is not saved in its file. -/
  | unsaved
      {queue context : Wording}
      {state : String}
      {discover : Bool}
      {rehearsal : Desk.Rehearsal}
      {session : Session}
      {fields : Fields}
      {error : SaveError}
      (hload : ((Desk.loadRehearsal world queue context discover).run {}).1 = .ok rehearsal)
      (hsession : ((Desk.stateSession world state).run {}).1 = .ok session)
      (hcontents : (rehearsal.render world session).2.session.shelves.contents CatalogName.label =
        .ok fields)
      (hsaves : world.saves (FilePath.ofText state) (Json.obj fields).indented = some error) :
      Leaks world (.simulate queue context (some state) true discover)
        (error.fault (FilePath.ofText state))
  /-- The table refuses what the command writes. -/
  | refused
      {command : Command}
      {session : Session}
      {accesses : List Access}
      {access : Access}
      {error : TableError}
      (hsession : Desk.reached world = .ok session)
      (haccesses : Accesses world session command accesses)
      (hmem : access ∈ accesses)
      (hwrite : access.isWrite = true)
      (hrefused : world.refuses access = some error)
      (hmanual : command.editsManual = true → error.fault.isBadValue = false) :
      Leaks world command error.fault
  /-- A time in a record of a managed catalog is an infinite number or not a number. -/
  | time
      {command : Command}
      {session : Session}
      {catalog : ManagedCatalog}
      {handle : String}
      {fault : Fault}
      (hsession : Sees world command session)
      (hcommand : command.Manages catalog handle)
      (hrecord : session.shelves.Mistimed catalog handle fault) :
      Leaks world command fault
  /-- A size or a time in a record is too large to be shown. -/
  | figure
      {name : CatalogName}
      {inFooter : Option Bool}
      {session : Session}
      {records record : Fields}
      {handle key : String}
      {fault : Fault}
      (hsession : Desk.reached world = .ok session)
      (hrecords : session.shelves name = .ok records)
      (hrecord : (handle, Json.obj record) ∈ records)
      (hfigure : Figure.size (Record.field key record) = .error fault ∨
        Figure.time (Record.field key record) = .error fault) :
      Leaks world (.scripts name inFooter) fault
  /-- An address cannot be taken apart when the file behind a script is looked for. -/
  | address
      {command : Command}
      {site : Site}
      {fault : Fault}
      (hsite : command.site? world = some site)
      (haddress : site.Confused fault) :
      Leaks world command fault
  /-- The stored strategy of a manual script is a list or an object. -/
  | strategy
      {handle : String}
      {data : ManualData}
      {session : Session}
      {records record : Fields}
      {fault : Fault}
      (hsession : Desk.reached world = .ok session)
      (hrecords : session.shelves .manual = .ok records)
      (hrecord : (handle, Json.obj record) ∈ records)
      (hstrategy : Manual.Strategic record fault) :
      Leaks world (.updateManual (some handle) data) fault

/-- How a command may end before its last step: it has told what is wrong, or the verdict was
against and the exit status was wanted, or the console does not show what it is handed, or a fault
leaves it.  Where it comes upon half of a pair of code units, how it ends is not followed. -/
inductive May (world : World) (command : Command) : Ending → List String → Prop
  | tell
      {lines : List String}
      (htold : Desk.Told lines) :
      May world command (.exit 1) lines
  | refuse
      {context : Wording}
      {rules : Option String}
      {purpose : Option Purpose}
      {lines : List String}
      (hcommand : command = .evaluate context rules purpose true) :
      May world command (.exit 2) lines
  | unshown
      {shown : Shown}
      {why : Unshown}
      {lines : List String}
      (hrender : Console.render shown = .error why) :
      May world command (.unshown shown why) lines
  | leak
      {fault : Fault}
      {lines : List String}
      (hleak : Leaks world command fault)
      (hfollowed : fault ≠ .loneSurrogate) :
      May world command (.fault fault) lines
  | unfollowed
      {lines : List String}
      (hhalf : Leaks world command .loneSurrogate) :
      May world command (.fault .loneSurrogate) lines

end Command

end Defs

namespace Desk

open PageScripts.Action
open Command (Leaks May Sees)

/-! ## What single steps may fail at -/

/-- A time that is shown can be read. -/
theorem hasWhole_of_time
    {value : Json}
    {text : String}
    (h : Figure.time value = .ok text) :
    value.HasWhole := by
  cases value with
  | float x =>
      cases x with
      | finite negative significand exponent =>
          trivial
      | infinite negative =>
          cases h
      | nan =>
          cases h
  | _ =>
      trivial

/-- A row is made unless a size or a time cannot be shown. -/
theorem raises_scriptRow
    (name : CatalogName)
    (handle : String)
    (record : Fields) :
    Raises
      (fun fault => ∃ key, Figure.size (Record.field key record) = .error fault ∨
        Figure.time (Record.field key record) = .error fault)
      (scriptRow name handle record) := by
  unfold scriptRow
  cases name.managed? with
  | none =>
      refine Raises.bind (fun fault h => ⟨_, .inl h⟩) fun size => ?_
      refine Raises.bind (fun fault h => ⟨_, .inr h⟩) fun mtime => ?_
      exact Raises.bind (fun fault h => ⟨_, .inr h⟩) fun date => .ok _
  | some catalog =>
      refine Raises.bind_ok (fun fault h => ⟨_, .inr h⟩) fun date hdate => ?_
      rcases ofFields_cases handle catalog record with
        ⟨-, script, hscript, -⟩ | ⟨htimed, -⟩
      · simp only [hscript]
        exact .ok _
      · exact absurd (hasWhole_of_time hdate) htimed

/-- A command on the rules of a script reads catalogs, and needs both parts of its target. -/
theorem needs_of_ruleTarget?
    {command : Command}
    {target : RuleTarget}
    (h : command.ruleTarget? = some target) :
    command.readsDatabase = true ∧ command.editsManual = false ∧
      (target.catalog = none ∨ target.handle = none → command.isWordless = true) := by
  have hnone (hmissing : target.catalog = none ∨ target.handle = none) :
      (target.catalog.isNone || target.handle.isNone) = true := by
    rcases hmissing with hmissing | hmissing <;> simp [hmissing]
  cases command with
  | showRules _ | clearRules _ =>
      cases h
      exact ⟨rfl, rfl, hnone⟩
  | setRules _ text file =>
      cases h
      refine ⟨rfl, rfl, fun hmissing => ?_⟩
      simp only [Command.isWordless, hnone hmissing, Bool.true_or]
  | _ =>
      cases h

/-- The fields that are given are editable, each given once. -/
theorem fields_manualData (data : ManualData) :
    (∀ name ∈ data.fields.keys, name ∈ Catalog.manualFields) ∧ Listing.Distinct data.fields := by
  have hfield {β : Type} (name : String) (value : β → Json) (given : Option β) :
      (Listing.keys (given.map fun b => (name, value b)).toList).Sublist [name] := by
    cases given with
    | none =>
        exact List.nil_sublist _
    | some b =>
        exact .refl _
  have hsub : data.fields.keys.Sublist ["src", "ver", "deps", "strategy", "in_footer"] := by
    simp only [ManualData.fields, Listing.keys, List.map_append]
    exact ((((hfield _ _ _).append (hfield _ _ _)).append (hfield _ _ _)).append
      (hfield _ _ _)).append (hfield _ _ _)
  have hnames : ∀ name ∈ ["src", "ver", "deps", "strategy", "in_footer"],
      name ∈ Catalog.manualFields := by
    decide
  exact ⟨fun name hname => hnames name (hsub.subset hname), hsub.nodup (by decide)⟩

theorem value?_strategy_fields (data : ManualData) :
    data.fields.value? "strategy" = data.strategy.map Wording.value := by
  obtain ⟨src, version, deps, strategy, inFooter⟩ := data
  cases src <;> cases version <;> cases deps <;> cases strategy <;> cases inFooter <;> rfl

/-- A strategy that is given is a plain value, unless it stands without a word. -/
theorem wordless_of_value
    {wording : Wording}
    (h : wording.value.isHashable = false) :
    wording = none := by
  cases wording with
  | none =>
      rfl
  | some word =>
      cases h

/-- Files with input are told of, whether they are missing or hold something else. -/
def isInputFault (fault : Fault) : Bool :=
  fault.isFileError || fault.isBadValue

theorem raises_json
    (world : World)
    (name : String) :
    Raises (fun fault => isInputFault fault = true ∨ fault = .loneSurrogate)
      (world.json name) := by
  refine Raises.bind ?_ fun octets => Raises.bind ?_ fun text => ?_
  · unfold World.octets
    refine .ite (.error (.inl rfl)) ?_
    split
    · exact .ok _
    · exact .error (.inl rfl)
  · unfold Input.text
    split
    · exact .ok _
    · exact .error (.inl rfl)
  · unfold Json.read
    split
    · exact .ok _
    · exact .error (.inl rfl)
    · exact .error (.inl rfl)
    · exact .error (.inr rfl)

/-- The items of a queue are taken, or one of them is told of. -/
theorem raises_addItems
    (index : Nat)
    (items : List Json)
    (queue : RenderQueue) :
    Raises (fun fault => isInputFault fault = true) (RenderQueue.addItems index items queue) := by
  induction items generalizing index queue with
  | nil =>
      exact .ok _
  | cons item rest ih =>
      unfold RenderQueue.addItems
      split
      · exact .error rfl
      · exact ih _ _

/-- All catalogs are copied, unless one of them is not given out. -/
theorem raises_contents
    (shelves : Shelves)
    (key : CatalogName → String) :
    Raises shelves.Withhold (shelves.contents key) :=
  Raises.mapM (fun name => (shelves.raises_shelf name).bind fun _ => .ok _) CatalogName.all

theorem raises_render
    (rehearsal : Rehearsal)
    (world : World)
    (session : Session) :
    Raises
      (fun fault => session.shelves.Withhold fault ∨
        (∃ catalog handle, session.shelves.Mistimed catalog handle fault) ∨
        rehearsal.discover = true ∧ world.site.Confused fault)
      (rehearsal.render world session).1 := by
  obtain ⟨reads, notices, -, hrender⟩ := render_eq rehearsal world session
  rw [hrender]
  exact Session.raises_settle (raises_renderPlan _ _ _ _ _ _) (fun _ => .inl) reads notices

/-! ## What all commands share -/

variable [Console]
variable {world : World}
variable {command : Command}

theorem tells_may : Ways.Tells (May world command) :=
  ⟨fun _ h => .tell h, fun _ _ h _ => .unshown h⟩

/-- A fault that leaks is one of the ways, whatever was printed. -/
theorem may_of_leaks
    {fault : Fault}
    (h : Leaks world command fault)
    (lines : List String) :
    May world command (.fault fault) lines := by
  by_cases hhalf : fault = .loneSurrogate
  · subst hhalf
    exact .unfollowed h
  · exact .leak h hhalf

/-- Catalogs of the database that are told of if they are corrupt leak no other fault than the
ones that the work in them may fail at. -/
theorem ends_settleCatalog
    {α : Type}
    {session : Session}
    {result : Except Fault α}
    (hsession : Sees world command session)
    (hmanual : command.editsManual = false)
    (hresult : Raises (fun fault => session.shelves.Withhold fault ∨ Leaks world command fault)
      result) :
    Ends (May world command) (settleCatalog result) := by
  refine .settleCatalog tells_may fun fault hfault hother => may_of_leaks ?_
  rcases hresult fault hfault with hshelves | hleak
  · exact .store hsession hshelves hother fun h => nomatch hmanual.symm.trans h
  · exact hleak

/-- Work in the database fails as it does by itself, or leaks where the table refuses what it writes;
the commands on manual scripts tell of a bad value. -/
theorem raises_guarded
    {α : Type}
    {kind : Fault → Prop}
    {session : Session}
    {action : Action α}
    (hsession : reached world = .ok session)
    (haccesses : Command.Accesses world session command (Command.accessesOf session action))
    (hleaks : ∀ fault, Leaks world command fault → kind fault)
    (htold : command.editsManual = true → ∀ fault : Fault, fault.isBadValue = true → kind fault)
    (haction : Raises kind (action.run session).1) :
    Raises kind (session.guard world.refuses (action.run session)).1 := by
  refine Session.raises_guard haction fun access hmem error hwrite hrefused => ?_
  by_cases hmanual : command.editsManual = true ∧ error.fault.isBadValue = true
  · exact htold hmanual.1 _ hmanual.2
  · refine hleaks _ (.refused hsession haccesses hmem hwrite hrefused fun hedits => ?_)
    exact Bool.not_eq_true _ ▸ fun hbad => hmanual ⟨hedits, hbad⟩

/-- So work in the catalogs ends the command as their faults do, or as what it writes is refused. -/
theorem ends_settleGuarded
    {α : Type}
    {session : Session}
    {action : Action α}
    (hcommand : command.readsDatabase = true)
    (hmanual : command.editsManual = false)
    (hsession : reached world = .ok session)
    (haccesses : Command.Accesses world session command (Command.accessesOf session action))
    (haction : Raises (fun fault => session.shelves.Withhold fault ∨ Leaks world command fault)
      (action.run session).1) :
    Ends (May world command)
      (settleCatalog (session.guard world.refuses (action.run session)).1) := by
  refine ends_settleCatalog (.database hcommand hsession) hmanual ?_
  exact raises_guarded hsession haccesses (fun _ => .inr) (fun h => nomatch hmanual.symm.trans h)
    haction

/-- A word is given, unless the argument stands without one. -/
theorem ends_requireWord_bind
    {α : Type}
    {word : Wording}
    {next : String → DeskAction α}
    (hwordless : word = none → command.isWordless = true)
    (hnext : ∀ name, word = some name → Ends (May world command) (next name)) :
    Ends (May world command) (requireWord word >>= next) := by
  cases word with
  | none =>
      exact .throw_bind next (may_of_leaks (.wordless (hwordless rfl) (by decide)))
  | some name =>
      exact hnext name rfl

end Desk
end PageScripts
