import PageScripts.Proofs.Catalog.Holdings
import PageScripts.Proofs.Listing

/-!
# Operations on different handles do not meet

Every operation reads whole catalogs and writes whole catalogs back.  Still, one that is about a
single handle looks at nothing but the records of this handle and changes nothing but them.

**Steps.**
* `LocalTo`: a plan that only looks at, and only edits, the records of one handle.
* `localTo_outcome`: so is the plan of each operation that is about one handle.
* `at_step_self` and `at_step_of_ne`: what such a step does to the records of its handle, and of
  any other one.

**Result.**  `perform_comm`: such operations leave the records of all other handles, and two of
them about different handles may be done in either order.
-/

namespace PageScripts

section Defs

/-- What the catalogs hold under one handle. -/
abbrev Glimpse := CatalogName → Option Json

/-- What becomes of the record of a handle in a catalog: a new one, or none. -/
abbrev Edit := CatalogName × Option Json

namespace Holdings

/-- What is held under a handle. -/
def «at»
    (holdings : Holdings)
    (handle : String) :
    Glimpse :=
  fun name => (holdings name).value? handle

/-- The write that an edit of the record of a handle takes. -/
def edit
    (holdings : Holdings)
    (handle : String)
    (edit : Edit) :
    Change :=
  .replace edit.1 ((holdings edit.1).assign handle edit.2)

end Holdings

/-- What is held under the handle after an edit. -/
def Glimpse.edit
    (glimpse : Glimpse)
    (edit : Edit) :
    Glimpse :=
  fun name => if name = edit.1 then edit.2 else glimpse name

/-- What work on the records of a handle leaves of them; it changes nothing if it fails. -/
def Glimpse.after
    {α : Type}
    (look : Glimpse → Except Fault (α × List Edit))
    (glimpse : Glimpse) :
    Glimpse :=
  match look glimpse with
  | .ok come => come.2.foldl Glimpse.edit glimpse
  | .error _ => glimpse

/-- The plan works everything out of the records of one handle, and edits no others. -/
def LocalTo
    {α : Type}
    (handle : String)
    (plan : Shelves → Except Fault (Outcome α)) : Prop :=
  ∃ look : Glimpse → Except Fault (α × List Edit),
    ∀ holdings : Holdings,
      plan holdings.shelves =
        (look (holdings.at handle)).map fun come =>
          (come.1, come.2.map (holdings.edit handle))

/-- The operation is about one handle.  Data that are no valid manual script name none, so to add
them is about any. -/
def Operation.About
    (handle : String) :
    Operation → Prop
  | .recordIfNew script _ => script.handle = handle
  | .dequeue handles _ => handles = .arr [.str handle]
  | .restore handles => handles = .arr [.str handle]
  | .forget handles => handles = .arr [.str handle]
  | .registerManual data _ _ =>
      ∀ form, Catalog.validForm data = .ok form → (Record.field "handle" form).display = handle
  | .updateManual other _ _ => other = handle
  | .removeManual handles => handles = .arr [.str handle]
  | .setRules _ _ other _ => other = handle
  | .clearRules _ other => other = handle
  | _ => False

end Defs

namespace Glimpse

/-- The first catalog that has the handle. -/
def owner? (glimpse : Glimpse) : Option CatalogName :=
  CatalogName.all.find? fun name => (glimpse name).isSome

/-- The record in a catalog, if it is an object. -/
def sound?
    (glimpse : Glimpse)
    (name : CatalogName) :
    Option Fields :=
  (glimpse name).bind Json.fields?

end Glimpse

section Plans

open Catalog

theorem ownerAmong_shelves
    (holdings : Holdings)
    (handle : String)
    (names : List CatalogName) :
    holdings.shelves.ownerAmong handle names =
      .ok (names.find? fun name => (holdings.at handle name).isSome) := by
  induction names with
  | nil =>
      rfl
  | cons name rest ih =>
      have hcons : holdings.shelves.ownerAmong handle (name :: rest) =
          if (holdings name).has handle = true then .ok (some name)
          else holdings.shelves.ownerAmong handle rest := rfl
      have hhas : (holdings.at handle name).isSome = (holdings name).has handle := rfl
      rw [hcons, ih, List.find?_cons, hhas]
      cases (holdings name).has handle <;> rfl

theorem ownerOf_shelves
    (holdings : Holdings)
    (handle : String) :
    holdings.shelves.ownerOf handle = .ok (holdings.at handle).owner? :=
  ownerAmong_shelves holdings handle CatalogName.all

/-! ### What operations make of the records of one handle -/

/-- A script is written down, unless a catalog has its handle. -/
def Glimpse.recordIfNew
    (script : DiscoveredScript)
    (now : Int)
    (glimpse : Glimpse) :
    Except Fault (Bool × List Edit) :=
  match glimpse.owner? with
  | some _ => .ok (false, [])
  | none => .ok (true, [(.discovered, some (.obj { script with found := now }.toRecord))])

/-- A discovered script is moved, if its record is an object. -/
def Glimpse.dequeue
    (handle : String)
    (now : Int)
    (glimpse : Glimpse) :
    Except Fault (List String × List Edit) :=
  match glimpse.sound? .discovered with
  | none => .ok ([], [])
  | some record =>
      .ok ([handle], [(.discovered, none), (.removed, some (.obj (movedRecord now record)))])

/-- A record is taken out, and reported unless it is null. -/
def Glimpse.deleteFrom
    (name : CatalogName)
    (handle : String)
    (glimpse : Glimpse) :
    Except Fault (List String × List Edit) :=
  match glimpse name with
  | none => .ok ([], [])
  | some record => if record = .null then .ok ([], []) else .ok ([handle], [(name, none)])

/-- Valid data become a manual script, if neither a catalog nor the queue has the handle. -/
def Glimpse.registerManual
    (handle : String)
    (form : Fields)
    (queue : Option RenderQueue)
    (now : Int)
    (glimpse : Glimpse) :
    Except Fault (String × List Edit) :=
  match glimpse.owner? with
  | some name => .error (.duplicateHandle handle (.catalog name))
  | none =>
      if queue.any (·.has handle) then
        .error (.duplicateHandle handle .queue)
      else
        .ok (handle, [(.manual, some (.obj (addedRecord form now)))])

/-- A manual script takes fields over, if its record is an object and what comes of it is
valid. -/
def Glimpse.updateManual
    (handle : String)
    (fields : Fields)
    (now : Int)
    (glimpse : Glimpse) :
    Except Fault (Fields × List Edit) :=
  match glimpse.sound? .manual with
  | none => .error (.unknownHandle handle .manual)
  | some current =>
      (validForm (.obj (((editable current).putAll fields).put "handle" (.str handle)))).map
        fun data =>
          let record := editedRecord current data now
          (record, [(.manual, some (.obj record))])

/-- The record of a managed script, which has to be an object, is changed. -/
def Glimpse.changeManaged
    {α : Type}
    (catalog : ManagedCatalog)
    (handle : String)
    (change : Fields → Except Fault (α × Fields))
    (glimpse : Glimpse) :
    Except Fault (α × List Edit) :=
  match glimpse.sound? catalog.name with
  | none => .error (.unknownHandle handle catalog.name)
  | some record =>
      (change record).map fun come => (come.1, [(catalog.name, some (.obj come.2))])

/-- A record with valid rules. -/
def withRules
    (report : Report)
    (record : Fields) :
    Except Fault (RuleSet × Fields) :=
  if report.isValid then
    let rules := RuleSet.ofFields (report.normalized.getD [])
    .ok (rules, record.put "rules" (.obj rules.wire))
  else
    .error (.invalidData report)

theorem localTo_recordIfNew
    (script : DiscoveredScript)
    (now : Int) :
    LocalTo script.handle (recordIfNewPlan script now) := by
  refine ⟨Glimpse.recordIfNew script now, fun holdings => ?_⟩
  unfold recordIfNewPlan Glimpse.recordIfNew
  rw [ownerOf_shelves]
  cases (holdings.at script.handle).owner? <;> rfl

theorem localTo_dequeue
    (handle : String)
    (now : Int) :
    LocalTo handle (dequeuePlan (.arr [.str handle]) now) := by
  refine ⟨Glimpse.dequeue handle now, fun holdings => ?_⟩
  have hplan : dequeuePlan (.arr [.str handle]) now holdings.shelves =
      let come := moveAll now [handle] (holdings .discovered) (holdings .removed)
      if come.2.2.isEmpty then
        .ok ([], [])
      else
        .ok (come.2.2, [.replace .discovered come.1, .replace .removed come.2.1]) := rfl
  have hsound : (holdings.at handle).sound? .discovered =
      sound? (holdings .discovered) handle := rfl
  unfold Glimpse.dequeue
  rw [hplan, hsound]
  cases hrecord : sound? (holdings .discovered) handle with
  | none =>
      have hmoved : moveAll now [handle] (holdings .discovered) (holdings .removed) =
          (holdings .discovered, holdings .removed, []) := by
        simp only [moveAll, hrecord]
      rw [hmoved]
      rfl
  | some record =>
      have hmoved : moveAll now [handle] (holdings .discovered) (holdings .removed) =
          ((holdings .discovered).without handle,
            (holdings .removed).put handle (.obj (movedRecord now record)), [handle]) := by
        simp only [moveAll, hrecord]
      rw [hmoved]
      rfl

theorem localTo_deleteFrom
    (name : CatalogName)
    (handle : String) :
    LocalTo handle (deletePlan name (.arr [.str handle])) := by
  refine ⟨Glimpse.deleteFrom name handle, fun holdings => ?_⟩
  have hplan : deletePlan name (.arr [.str handle]) holdings.shelves =
      let come := takeOut [handle] (holdings name)
      if come.2.isEmpty then .ok ([], []) else .ok (come.2, [.replace name come.1]) := rfl
  have hvalue : holdings.at handle name = (holdings name).value? handle := rfl
  unfold Glimpse.deleteFrom
  rw [hplan, hvalue]
  cases hrecord : (holdings name).value? handle with
  | none =>
      have htaken : takeOut [handle] (holdings name) = (holdings name, []) := by
        simp only [takeOut, hrecord]
      rw [htaken]
      rfl
  | some record =>
      have htaken : takeOut [handle] (holdings name) =
          ((holdings name).without handle, if record = .null then [] else [handle]) := by
        simp only [takeOut, hrecord]
      rw [htaken]
      by_cases hnull : record = .null
      · simp only [if_pos hnull]
        rfl
      · simp only [if_neg hnull]
        rfl

theorem localTo_registerManual
    {data : Json}
    {handle : String}
    (hhandle : ∀ form, validForm data = .ok form →
      (Record.field "handle" form).display = handle)
    (queue : Option RenderQueue)
    (now : Int) :
    LocalTo handle (registerManualPlan data queue now) := by
  unfold registerManualPlan
  cases hform : validForm data with
  | error fault =>
      exact ⟨fun _ => .error fault, fun _ => rfl⟩
  | ok form =>
      obtain rfl := hhandle form hform
      let handle := (Record.field "handle" form).display
      refine ⟨Glimpse.registerManual handle form queue now, fun holdings => ?_⟩
      unfold freeView Glimpse.registerManual
      simp only [ownerOf_shelves, bind, Except.bind]
      cases (holdings.at handle).owner? with
      | some name =>
          rfl
      | none =>
          cases queue.any (·.has handle) <;> rfl

theorem localTo_updateManual
    (handle : String)
    (fields : Fields)
    (now : Int) :
    LocalTo handle (updateManualPlan handle fields now) := by
  unfold updateManualPlan
  simp only
  split
  · exact ⟨fun _ => .error _, fun _ => rfl⟩
  · refine ⟨Glimpse.updateManual handle fields now, fun holdings => ?_⟩
    have hsound : (holdings.at handle).sound? .manual = sound? (holdings .manual) handle := rfl
    unfold Glimpse.updateManual
    simp only [Holdings.shelves, hsound, bind, Except.bind]
    cases sound? (holdings .manual) handle with
    | none =>
        rfl
    | some current =>
        dsimp only
        cases validForm (.obj (((editable current).putAll fields).put "handle" (.str handle))) <;>
          rfl

/-- The view of a managed record, where the catalogs are given out. -/
theorem managedRecordView_shelves
    (holdings : Holdings)
    (catalog : ManagedCatalog)
    (handle : String) :
    managedRecordView catalog handle holdings.shelves =
      match (holdings.at handle).sound? catalog.name with
      | none => .error (.unknownHandle handle catalog.name)
      | some record => .ok (holdings catalog.name, record) := by
  have hsound : (holdings.at handle).sound? catalog.name =
      sound? (holdings catalog.name) handle := rfl
  rw [hsound]
  unfold managedRecordView
  simp only [Holdings.shelves, bind, Except.bind]
  cases sound? (holdings catalog.name) handle <;> rfl

theorem localTo_setRules
    {m : Type → Type}
    {γ : Type}
    (registry : Registry m γ)
    (name : CatalogName)
    (handle : String)
    (payload : Json) :
    LocalTo handle (setRulesPlan registry name handle payload) := by
  unfold setRulesPlan
  cases managedName name with
  | error fault =>
      exact ⟨fun _ => .error fault, fun _ => rfl⟩
  | ok catalog =>
      refine ⟨Glimpse.changeManaged catalog handle (withRules (checkRules registry payload)),
        fun holdings => ?_⟩
      unfold Glimpse.changeManaged withRules
      simp only [managedRecordView_shelves, bind, Except.bind]
      cases (holdings.at handle).sound? catalog.name with
      | none =>
          rfl
      | some record =>
          by_cases hvalid : (checkRules registry payload).isValid = true
          · simp only [if_pos hvalid]
            rfl
          · simp only [if_neg hvalid]
            rfl

theorem localTo_clearRules
    (name : CatalogName)
    (handle : String) :
    LocalTo handle (clearRulesPlan name handle) := by
  unfold clearRulesPlan
  cases managedName name with
  | error fault =>
      exact ⟨fun _ => .error fault, fun _ => rfl⟩
  | ok catalog =>
      refine ⟨Glimpse.changeManaged catalog handle fun record => .ok ((), record.without "rules"),
        fun holdings => ?_⟩
      unfold Glimpse.changeManaged
      simp only [managedRecordView_shelves, bind, Except.bind]
      cases (holdings.at handle).sound? catalog.name <;> rfl

/-- What an operation about one handle comes to is local to it. -/
theorem localTo_outcome
    {operation : Operation}
    {handle : String}
    (habout : operation.About handle) :
    LocalTo handle operation.outcome := by
  cases operation with
  | recordIfNew script now =>
      obtain rfl : script.handle = handle := habout
      exact localTo_recordIfNew script now
  | dequeue handles now =>
      obtain rfl : handles = .arr [.str handle] := habout
      exact localTo_dequeue handle now
  | restore handles =>
      obtain rfl : handles = .arr [.str handle] := habout
      exact localTo_deleteFrom .removed handle
  | forget handles =>
      obtain rfl : handles = .arr [.str handle] := habout
      exact localTo_deleteFrom .discovered handle
  | registerManual data queue now =>
      exact localTo_registerManual habout queue now
  | updateManual other fields now =>
      obtain rfl : other = handle := habout
      exact localTo_updateManual other fields now
  | removeManual handles =>
      obtain rfl : handles = .arr [.str handle] := habout
      exact localTo_deleteFrom .manual handle
  | setRules registry name other payload =>
      obtain rfl : other = handle := habout
      exact localTo_setRules registry name other payload
  | clearRules name other =>
      obtain rfl : other = handle := habout
      exact localTo_clearRules name other
  | crawl site request canManage now queue =>
      exact habout.elim
  | clearDiscovered =>
      exact habout.elim
  | render registry site request discover now queue =>
      exact habout.elim

end Plans

section Steps

namespace Holdings

/-- Edits of the records of one handle do not reach another one. -/
theorem at_edits_of_ne
    {holdings current : Holdings}
    {handle other : String}
    (hne : other ≠ handle)
    (hcurrent : current.at other = holdings.at other)
    (edits : List Edit) :
    ((edits.map (holdings.edit handle)).foldl Holdings.change current).at other =
      holdings.at other := by
  induction edits generalizing current with
  | nil =>
      exact hcurrent
  | cons edit rest ih =>
      rw [List.map_cons, List.foldl_cons]
      apply ih
      funext name
      unfold Holdings.at Holdings.change Holdings.edit Change.name Change.records
      by_cases hname : name = edit.1
      · subst hname
        rw [if_pos rfl, Listing.value?_assign, if_neg (Ne.symm hne)]
      · rw [if_neg hname]
        exact congrFun hcurrent name

/-- What edits of the records of a handle leave of them. -/
theorem at_edits_self
    (holdings current : Holdings)
    (handle : String)
    (edits : List Edit) :
    ((edits.map (holdings.edit handle)).foldl Holdings.change current).at handle =
      edits.foldl Glimpse.edit (current.at handle) := by
  induction edits generalizing current with
  | nil =>
      rfl
  | cons edit rest ih =>
      rw [List.map_cons, List.foldl_cons, List.foldl_cons, ih]
      apply congrArg fun glimpse => rest.foldl Glimpse.edit glimpse
      funext name
      unfold Holdings.at Holdings.change Holdings.edit Glimpse.edit Change.name Change.records
      by_cases hname : name = edit.1
      · rw [if_pos hname, if_pos hname, Listing.value?_assign, if_pos rfl]
      · rw [if_neg hname, if_neg hname]

end Holdings

variable {operation : Operation} {handle : String}

/-- A step that is about one handle leaves the records of any other one. -/
theorem at_step_of_ne
    (habout : operation.About handle)
    {other : String}
    (hne : other ≠ handle)
    (holdings : Holdings) :
    (holdings.step operation).at other = holdings.at other := by
  obtain ⟨look, hlook⟩ := localTo_outcome habout
  unfold Holdings.step
  rw [Operation.plan_eq_outcome, hlook holdings]
  cases look (holdings.at handle) with
  | error fault =>
      rfl
  | ok come =>
      exact Holdings.at_edits_of_ne hne rfl come.2

/-- The result of a step that is about one handle, and what it leaves of the records of this
handle, rest on these records alone. -/
theorem at_step_self
    (habout : operation.About handle) :
    ∃ (result : Glimpse → Except Fault operation.Result) (left : Glimpse → Glimpse),
      ∀ holdings : Holdings,
        (operation.outcome holdings.shelves).map Prod.fst = result (holdings.at handle) ∧
        (holdings.step operation).at handle = left (holdings.at handle) := by
  obtain ⟨look, hlook⟩ := localTo_outcome habout
  refine ⟨fun glimpse => (look glimpse).map Prod.fst, Glimpse.after look, fun holdings => ?_⟩
  unfold Holdings.step Glimpse.after
  rw [Operation.plan_eq_outcome, hlook holdings]
  dsimp only
  cases look (holdings.at handle) with
  | error fault =>
      exact ⟨rfl, rfl⟩
  | ok come =>
      exact ⟨rfl, Holdings.at_edits_self holdings holdings handle come.2⟩

end Steps

section Sessions

/-- Two sessions give out all three catalogs, and have the same records under the handles in
question. -/
def Session.Agree
    (first second : Session)
    (among : String → Prop) : Prop :=
  ∀ name, ∃ left right,
    first.shelves name = .ok left ∧
    second.shelves name = .ok right ∧
    ∀ handle, among handle → left.value? handle = right.value? handle

theorem agree_of_at
    {first second : Session}
    {left right : Holdings}
    (hleft : first.shelves = left.shelves)
    (hright : second.shelves = right.shelves)
    {among : String → Prop}
    (h : ∀ handle, among handle → left.at handle = right.at handle) :
    first.Agree second among := by
  intro name
  refine ⟨left name, right name, congrFun hleft name, congrFun hright name, ?_⟩
  intro handle hamong
  exact congrFun (h handle hamong) name

/-- Operations about different handles.  Where each catalog is an object or empty, whatever its
records are, an operation that is about one handle leaves the records of all others.  Two of
them about different handles come to the same results or faults in either order, and to
catalogs with the same records. -/
theorem perform_comm
    {session : Session}
    (hmaps : ∀ name, ∃ records, session.shelves name = .ok records)
    {first second : Operation}
    {handle other : String}
    (hfirst : first.About handle)
    (hsecond : second.About other)
    (hne : handle ≠ other) :
    session.Agree (first.after session) (· ≠ handle) ∧
    session.Agree (second.after session) (· ≠ other) ∧
    (first.perform (second.after session)).1 = (first.perform session).1 ∧
    (second.perform (first.after session)).1 = (second.perform session).1 ∧
    (second.after (first.after session)).Agree (first.after (second.after session))
      (fun _ => True) := by
  choose holdings hholdings using hmaps
  have h : session.shelves = Holdings.shelves holdings := funext hholdings
  have hone := shelves_after h first
  have htwo := shelves_after h second
  have hkeep {one : String} (hhandle : one ≠ handle) := at_step_of_ne hfirst hhandle
  have hkeep' {one : String} (hother : one ≠ other) := at_step_of_ne hsecond hother
  obtain ⟨result, left, hself⟩ := at_step_self hfirst
  obtain ⟨result', left', hself'⟩ := at_step_self hsecond
  refine ⟨?_, ?_, ?_, ?_, ?_⟩
  · exact agree_of_at h hone fun one hother => (hkeep hother holdings).symm
  · exact agree_of_at h htwo fun one hother => (hkeep' hother holdings).symm
  · rw [result_perform htwo, result_perform h, (hself _).1, (hself _).1, hkeep' hne]
  · rw [result_perform hone, result_perform h, (hself' _).1, (hself' _).1, hkeep hne.symm]
  · refine agree_of_at (shelves_after hone second) (shelves_after htwo first) ?_
    intro one _
    by_cases hhandle : one = handle
    · subst hhandle
      rw [hkeep' hne, (hself _).2, (hself _).2, hkeep' hne]
    · by_cases hother : one = other
      · subst hother
        rw [(hself' _).2, hkeep hne.symm, hkeep hne.symm, (hself' _).2]
      · rw [hkeep' hother, hkeep hhandle, hkeep hhandle, hkeep' hother]

/-- A store with a discovered script beside a record that is no object, and a manual script; no
script was ever removed. -/
def neighbours : Session :=
  { options :=
      [ ("psa_found_scripts", .obj [("torn", .int 7), ("app", .obj [("src", .str "/app.js")])]),
        ("psa_manual_scripts", .obj [("map", .obj [("src", .str "https://a.b/m.js")])]) ] }

/-- One script is moved and another one gets rules, in either order. -/
theorem perform_comm_neighbours :
    let move := Operation.dequeue (.arr [.str "app"]) 5
    let rule := Operation.setRules Vocabulary.registry .manual "map"
      (.obj [("is_home", .bool true)])
    neighbours.Agree (move.after neighbours) (· ≠ "app") ∧
    (move.perform (rule.after neighbours)).1 = .ok ["app"] ∧
    (rule.after (move.after neighbours)).Agree (move.after (rule.after neighbours))
      (fun _ => True) := by
  have hmaps : ∀ name, ∃ records, neighbours.shelves name = .ok records := by
    intro name
    cases name <;> exact ⟨_, rfl⟩
  have happ : (Operation.dequeue (.arr [.str "app"]) 5).About "app" := rfl
  have hmap : (Operation.setRules Vocabulary.registry .manual "map"
      (.obj [("is_home", .bool true)])).About "map" := rfl
  obtain ⟨hkeep, -, hmove, -, hagree⟩ := perform_comm hmaps happ hmap (by decide)
  exact ⟨hkeep, hmove.trans rfl, hagree⟩

end Sessions
end PageScripts
