import PageScripts.Command.Catalogs
import PageScripts.Proofs.Catalog.Success
import PageScripts.Proofs.Render.Damage
import PageScripts.Proofs.Script.Form

/-!
# What work in catalogs may fail at

Every operation may find that a catalog is not given out.  Besides that, an operation may refuse
what it is asked for, and there are three things that it may stumble over: the address of a script
or of the site, the time in a record, and a strategy that is no plain value.

For each operation the faults of its plan are listed (`raises_…`), and `raises_of_follows` carries
the list over to the operation at work in a session.
-/

namespace PageScripts

open PageScripts.Action

section Defs

/-- A catalog is not given out, for a reason. -/
def Shelves.Withhold
    (shelves : Shelves)
    (fault : Fault) : Prop :=
  ∃ name, shelves name = .error fault

/-- A record of a managed catalog has a time that cannot be read. -/
def Shelves.Mistimed
    (shelves : Shelves)
    (catalog : ManagedCatalog)
    (handle : String)
    (fault : Fault) : Prop :=
  (fault = .infiniteNumber ∨ fault = .notANumber) ∧
    ∃ records record, shelves catalog.name = .ok records ∧ (handle, Json.obj record) ∈ records ∧
      ¬ catalog.Timed record

/-- An address cannot be taken apart when the file behind it is looked for. -/
def Site.Confused
    (site : Site)
    (fault : Fault) : Prop :=
  ∃ src cause, site.layout.localFile? site.files src = .error cause ∧ fault = .address cause

/-- The strategy in the data of a script is no plain value. -/
def Manual.Strategic
    (data : Fields)
    (fault : Fault) : Prop :=
  ∃ value, data.value? "strategy" = some value ∧ value.isHashable = false ∧
    fault = .wrongKind value.kind

end Defs

section Forms

variable {data : Fields}
variable {value : Json}

/-- What cannot be looked up in the normal form was in the data. -/
theorem value?_of_normalFields
    {name : String}
    (hvalue : value.isHashable = false)
    (h : (Manual.normalFields data).value? name = some value) :
    data.value? name = some value := by
  rw [Manual.value?_normalFields] at h
  cases hgiven : data.value? name with
  | none =>
      rw [hgiven] at h
      rw [Manual.hashable_initial h] at hvalue
      cases hvalue
  | some given =>
      rw [hgiven] at h
      obtain rfl : Manual.settled name given = value := Option.some.inj h
      rw [Manual.settled_of_not_hashable hvalue]

/-- Data are checked, unless their strategy is no plain value. -/
theorem Manual.raises_check (data : Fields) :
    Raises (Manual.Strategic data) (Manual.check (.obj data)) := by
  unfold Manual.check
  simp only
  split
  · exact .ok _
  · rename_i hhash
    cases hvalue : (Manual.normalFields data).value? "strategy" with
    | none =>
        rw [hvalue] at hhash
        exact absurd rfl hhash
    | some value =>
        rw [hvalue, Option.getD_some, Bool.not_eq_true] at hhash
        exact .error ⟨value, value?_of_normalFields hhash hvalue, hhash, rfl⟩

end Forms

section Sessions

variable {α : Type}
variable {kind : Fault → Prop}
variable {session : Session}

/-- A broken table gives no catalog out. -/
theorem Session.withhold_of_broken
    (h : session.medium = .brokenTable) :
    session.shelves.Withhold .statement :=
  ⟨.manual, if_pos h⟩

/-- What has been worked out fails as it is, or at a broken table. -/
theorem Session.raises_settle
    {outcome : Except Fault (Outcome α)}
    (houtcome : Raises kind outcome)
    (hshelves : ∀ fault, session.shelves.Withhold fault → kind fault)
    (reads : List Access)
    (notices : List Notice) :
    Raises kind (session.settle reads notices outcome).1 := by
  cases outcome with
  | error cause =>
      exact .error (houtcome cause rfl)
  | ok come =>
      unfold Session.settle
      by_cases hrefused : come.2 ≠ [] ∧ session.medium = .brokenTable
      · simp only [if_pos hrefused]
        exact .error (hshelves _ (Session.withhold_of_broken hrefused.2))
      · simp only [if_neg hrefused]
        exact .ok _

/-- An operation at work fails as its plan does, or at a broken table. -/
theorem raises_of_follows
    {action : Action α}
    {plan : Shelves → Except Fault (Outcome α)}
    (h : Follows action plan)
    (hplan : Raises kind (plan session.shelves))
    (hshelves : ∀ fault, session.shelves.Withhold fault → kind fault) :
    Raises kind (action.run session).1 := by
  obtain ⟨reads, notices, -, hrun⟩ := h session
  rw [hrun]
  exact Session.raises_settle hplan hshelves reads notices

/-- Work that its table does not carry out fails as it does by itself, or at a write that the table
refuses. -/
theorem Session.raises_guard
    {refuses : Access → Option TableError}
    {work : Except Fault α × Session}
    (h : Raises kind work.1)
    (hrefused : ∀ access ∈ work.2.accesses.drop session.accesses.length, ∀ error,
      access.isWrite = true → refuses access = some error → kind error.fault) :
    Raises kind (session.guard refuses work).1 := by
  rcases guard_cases refuses session work with hdone | ⟨access, hmem, error, hwrite, hcause, hended⟩
  · rw [hdone]
    exact h
  · rw [hended]
    exact .error (hrefused access hmem error hwrite hcause)

end Sessions

section Plans

variable {shelves : Shelves}

theorem Shelves.raises_shelf (name : CatalogName) :
    Raises shelves.Withhold (shelves name) :=
  fun _ h => ⟨name, h⟩

theorem Shelves.raises_ownerAmong
    (handle : String)
    (names : List CatalogName) :
    Raises shelves.Withhold (shelves.ownerAmong handle names) := by
  induction names with
  | nil =>
      exact .ok none
  | cons name rest ih =>
      exact (shelves.raises_shelf name).bind fun records => .ite (.ok _) ih

theorem Shelves.raises_allHandles :
    Raises shelves.Withhold shelves.allHandles :=
  (Raises.mapM shelves.raises_shelf CatalogName.all).bind fun _ => .ok _

/-- A managed catalog is read unless it is not given out, or one of its times cannot be read. -/
theorem Shelves.raises_managed (catalog : ManagedCatalog) :
    Raises (fun fault => shelves.Withhold fault ∨ ∃ handle, shelves.Mistimed catalog handle fault)
      (shelves.managed catalog) := by
  intro fault h
  rcases error_of_managed h with hshelf | hnumber
  · exact .inl ⟨catalog.name, hshelf⟩
  · refine (em (shelves.Withhold fault)).imp_right fun hgiven => ?_
    cases hrecords : shelves catalog.name with
    | error cause =>
        unfold Shelves.managed at h
        rw [hrecords] at h
        cases h
        exact absurd ⟨catalog.name, hrecords⟩ hgiven
    | ok records =>
        have hmistimed : ¬ ∀ handle record, (handle, Json.obj record) ∈ records →
            catalog.Timed record := by
          intro htimed
          obtain ⟨scripts, hscripts⟩ := ok_managed_iff.mpr ⟨records, hrecords, htimed⟩
          cases hscripts.symm.trans h
        push Not at hmistimed
        obtain ⟨handle, record, hmem, htimed⟩ := hmistimed
        exact ⟨handle, hnumber, records, record, hrecords, hmem, htimed⟩

namespace Catalog

/-- Handles from a command line can always be named. -/
theorem raises_handlesIn
    (kind : Fault → Prop)
    (handles : List String) :
    Raises kind (handlesIn (Desk.handleList handles)) := by
  have hfind : (handles.map Json.str).find? (fun item => !item.isHashable) = none := by
    rw [List.find?_eq_none]
    intro item hitem
    obtain ⟨handle, -, rfl⟩ := List.mem_map.mp hitem
    exact Bool.false_ne_true
  have heq : handlesIn (Desk.handleList handles) =
      .ok ((handles.map Json.str).filterMap Json.text?) := by
    unfold handlesIn Desk.handleList Json.elements
    simp only [bind, Except.bind, hfind]
    rfl
  rw [heq]
  exact .ok _

theorem raises_dequeuePlan
    (handles : List String)
    (now : Int) :
    Raises shelves.Withhold (dequeuePlan (Desk.handleList handles) now shelves) := by
  refine (shelves.raises_shelf _).bind fun found => ?_
  refine (shelves.raises_shelf _).bind fun removed => ?_
  exact (raises_handlesIn _ handles).bind fun named => .ite (.ok _) (.ok _)

theorem raises_deletePlan
    (name : CatalogName)
    (handles : List String) :
    Raises shelves.Withhold (deletePlan name (Desk.handleList handles) shelves) := by
  refine (shelves.raises_shelf _).bind fun all => ?_
  exact (raises_handlesIn _ handles).bind fun named => .ite (.ok _) (.ok _)

theorem raises_sightAll
    (site : Site)
    (queue : RenderQueue)
    (known : List String)
    (now : Int)
    (handles : List String)
    (found : Fields) :
    Raises site.Confused (sightAll site queue known now handles found) := by
  induction handles generalizing found with
  | nil =>
      exact .ok _
  | cons handle rest ih =>
      unfold sightAll
      refine .ite (ih found) ?_
      split
      · exact ih found
      · rename_i script hscript
        split
        · rename_i cause hcause
          exact .error ⟨script.src, cause, hcause, rfl⟩
        · exact (ih _).bind fun _ => .ok _

theorem raises_crawlPlan
    (site : Site)
    (request : Request)
    (canManage : Option Bool)
    (now : Int)
    (queue : RenderQueue) :
    Raises (fun fault => shelves.Withhold fault ∨ site.Confused fault)
      (crawlPlan site request canManage now queue shelves) := by
  refine .ite ?_ (.ok _)
  refine (shelves.raises_allHandles.mono fun _ => .inl).bind fun known => ?_
  refine ((shelves.raises_shelf _).mono fun _ => .inl).bind fun found => ?_
  exact ((raises_sightAll site queue known now _ found).mono fun _ => .inr).bind fun _ =>
    .ite (.ok _) (.ok _)

/-! ## Manual scripts -/

theorem raises_validForm (data : Fields) :
    Raises (fun fault => Manual.Strategic data fault ∨ ∃ report, fault = .invalidData report)
      (validForm (.obj data)) := by
  refine ((Manual.raises_check data).mono fun _ => .inl).bind fun report => ?_
  exact .ite (.ok _) (.error (.inr ⟨report, rfl⟩))

theorem raises_registerManualPlan
    (data : Fields)
    (queue : Option RenderQueue)
    (now : Int) :
    Raises
      (fun fault => shelves.Withhold fault ∨ Manual.Strategic data fault ∨
        (∃ report, fault = .invalidData report) ∨
        ∃ handle place, fault = .duplicateHandle handle place)
      (registerManualPlan (.obj data) queue now shelves) := by
  refine ((raises_validForm data).mono fun _ h => .inr (h.imp_right .inl)).bind fun form => ?_
  refine Raises.bind ?_ fun _ => ?_
  · refine ((Shelves.raises_ownerAmong _ _).mono fun _ => .inl).bind fun owner => ?_
    cases owner with
    | some name =>
        exact .error (.inr (.inr (.inr ⟨_, _, rfl⟩)))
    | none =>
        exact .ite (.error (.inr (.inr (.inr ⟨_, _, rfl⟩)))) (.ok _)
  · exact ((shelves.raises_shelf _).mono fun _ => .inl).bind fun _ => .ok _

theorem raises_managedRecordView
    (catalog : ManagedCatalog)
    (handle : String) :
    Raises (fun fault => shelves.Withhold fault ∨ fault = .unknownHandle handle catalog.name)
      (managedRecordView catalog handle shelves) := by
  refine ((shelves.raises_shelf _).mono fun _ => .inl).bind fun all => ?_
  cases sound? all handle with
  | none =>
      exact .error (.inr rfl)
  | some record =>
      exact .ok _

/-- Data that are given under the names of editable fields are only refused for what they hold, or
for a strategy that is neither given nor in the record a plain value. -/
theorem raises_updateManualPlan
    (handle : String)
    {fields : Fields}
    (hnames : ∀ name ∈ fields.keys, name ∈ manualFields)
    (now : Int) :
    Raises
      (fun fault => shelves.Withhold fault ∨
        (∃ manual current, shelves .manual = .ok manual ∧ sound? manual handle = some current ∧
          Manual.Strategic (((editable current).putAll fields).put "handle" (.str handle)) fault) ∨
        (∃ report, fault = .invalidData report) ∨ fault = .unknownHandle handle .manual)
      (updateManualPlan handle fields now shelves) := by
  have hunknown : (fields.keys.filter fun name => !manualFields.contains name) = [] := by
    rw [List.filter_eq_nil_iff]
    intro name hname
    simp [hnames name hname]
  unfold updateManualPlan
  simp only [hunknown, List.isEmpty_nil, Bool.not_true, Bool.false_eq_true, if_false]
  refine ((shelves.raises_shelf _).mono fun _ => .inl).bind_ok fun manual hmanual => ?_
  cases hcurrent : sound? manual handle with
  | none =>
      exact .error (.inr (.inr (.inr rfl)))
  | some current =>
      refine ((raises_validForm _).mono fun fault h => .inr ?_).bind fun form => .ok _
      exact h.imp (fun hstrategy => ⟨manual, current, hmanual, hcurrent, hstrategy⟩) .inl

/-! ## Rules -/

theorem raises_setRulesPlan
    {m : Type → Type}
    {γ : Type}
    (registry : Registry m γ)
    (catalog : ManagedCatalog)
    (handle : String)
    (payload : Json) :
    Raises
      (fun fault => shelves.Withhold fault ∨ fault = .unknownHandle handle catalog.name ∨
        ∃ report, fault = .invalidData report)
      (setRulesPlan registry catalog.name handle payload shelves) := by
  unfold setRulesPlan
  rw [managedName_name]
  refine ((raises_managedRecordView catalog handle).mono fun _ h => h.imp_right .inl).bind
    fun found => ?_
  exact .ite (.ok _) (.error (.inr (.inr ⟨_, rfl⟩)))

theorem raises_clearRulesPlan
    (catalog : ManagedCatalog)
    (handle : String) :
    Raises (fun fault => shelves.Withhold fault ∨ fault = .unknownHandle handle catalog.name)
      (clearRulesPlan catalog.name handle shelves) := by
  unfold clearRulesPlan
  rw [managedName_name]
  exact (raises_managedRecordView catalog handle).bind fun found => .ok _

theorem raises_getRulesView
    (catalog : ManagedCatalog)
    (handle : String) :
    Raises
      (fun fault => shelves.Withhold fault ∨ fault = .unknownHandle handle catalog.name ∨
        shelves.Mistimed catalog handle fault)
      (getRulesView catalog.name handle shelves) := by
  unfold getRulesView
  rw [managedName_name]
  refine ((raises_managedRecordView catalog handle).mono fun _ h => h.imp_right .inl).bind_ok
    fun found hfound => ?_
  refine Raises.bind (fun fault hfault => .inr (.inr ?_)) fun _ => .ok _
  obtain ⟨all, record⟩ := found
  obtain ⟨hall, hsound⟩ := managedRecordView_eq_ok hfound
  rcases ofFields_cases handle catalog record with
    ⟨-, script, hscript, -⟩ | ⟨htimed, cause, hcause, hnumber⟩
  · cases hscript.symm.trans hfault
  · cases hcause.symm.trans hfault
    exact ⟨hnumber, all, record, hall, mem_of_sound? hsound, htimed⟩

end Catalog

theorem raises_renderPlan
    (registry : Registry Id Request)
    (site : Site)
    (request : Request)
    (discover : Bool)
    (now : Int)
    (queue : RenderQueue) :
    Raises
      (fun fault => shelves.Withhold fault ∨
        (∃ catalog handle, shelves.Mistimed catalog handle fault) ∨
        discover = true ∧ site.Confused fault)
      (renderPlan registry site request discover now queue shelves).1 := by
  unfold renderPlan
  cases hboth : shelves.bothManaged with
  | error fault =>
      obtain ⟨catalog, hcatalog⟩ := error_of_bothManaged hboth
      refine .error ?_
      rcases shelves.raises_managed catalog fault hcatalog with hshelf | ⟨handle, hmistimed⟩
      · exact .inl hshelf
      · exact .inr (.inl ⟨catalog, handle, hmistimed⟩)
  | ok both =>
      unfold discoveryPlan
      cases discover with
      | false =>
          exact .ok _
      | true =>
          simp only [if_true]
          refine Raises.map ?_ _
          refine (Catalog.raises_crawlPlan site request none now _).mono fun fault h => ?_
          exact h.imp_right fun hconfused => .inr ⟨trivial, hconfused⟩

end Plans

end PageScripts
