import PageScripts.Proofs.Catalog.Moving
import PageScripts.Proofs.Catalog.OneByOne
import PageScripts.Proofs.Catalog.TakingOut

/-!
# Taking scripts out of a catalog

Removed scripts are restored, discovered ones are forgotten and manual ones are removed in the same
way: the catalog is read, the records of the handles are taken out, and the rest is written back if
the report names a handle.  The report goes by what was taken out, and so it passes over a record
that is null.

**Records.**
* `reported`, `leftover`: the handles that are reported and the records that are left.
* `deleted_leftover`: the two against what was asked for.

**Sessions.**
* `run_deletion`, `shelves_deletionChanges`: the report of the work, and the catalogs after it.
* `keeps_of_ownerOf`, `recordIfNew_of_free`, `registerManual_of_free`: the owner of a handle is a
  catalog that has it, and a handle without one can be discovered or registered.

**Result.**  `deletion_exact`: what is deleted, reported and left; `null_record_stays` is the one way
in which a handle is not deleted.
-/

namespace PageScripts

open Catalog

section Defs

/-- The work by which scripts are taken out of a catalog. -/
def Catalog.deletion : CatalogName → Json → Action (List String)
  | .discovered => forget
  | .removed => restore
  | .manual => removeManual

/-- The handle is in none of the catalogs, all of which are given out. -/
def Shelves.Free
    (shelves : Shelves)
    (handle : String) : Prop :=
  ∀ name, ∃ records, shelves name = .ok records ∧ handle ∉ records.keys

/-- A deletion has reported some handles of a catalog and left some of its records.  A null record is
not reported, and it is deleted only along with others. -/
structure Deleted
    (handles reported : List String)
    (records left : Fields) : Prop where
  once : reported.Nodup
  first_mention : reported = (handles.filter (counts records)).eraseDups
  mem_reported_iff : ∀ handle, handle ∈ reported ↔
    handle ∈ handles ∧ ∃ record, records.value? handle = some record ∧ record ≠ .null
  all_reported_iff : reported = (handles.filter records.has).eraseDups ↔
    ∀ handle ∈ handles, records.value? handle ≠ some .null
  kept : ∀ handle ∉ handles, left.value? handle = records.value? handle
  all_gone_iff : (∀ handle ∈ handles, handle ∉ left.keys) ↔
    reported ≠ [] ∨ ∀ handle ∈ handles, records.value? handle ≠ some .null
  kept_order : left.Sublist records

theorem deletion_eq (name : CatalogName) :
    deletion name = deleteFrom name := by
  cases name <;> rfl

end Defs

section Records

variable (records : Fields)
variable (handles : List String)

/-- The handles that a deletion reports. -/
def reported : List String :=
  (handles.filter (counts records)).eraseDups

/-- The records that a deletion leaves: nothing is written if no handle is reported. -/
def leftover : Fields :=
  if reported records handles = [] then records
  else records.filter fun entry => entry.1 ∉ handles

variable {records handles}

theorem mem_reported_iff (handle : String) :
    handle ∈ reported records handles ↔
      handle ∈ handles ∧ ∃ record, records.value? handle = some record ∧ record ≠ .null := by
  rw [reported, List.mem_eraseDups, List.mem_filter]
  refine and_congr_right fun _ => ?_
  unfold counts
  cases records.value? handle <;> simp

/-- The report names all handles that were there exactly if none of them has a null record. -/
theorem reported_eq_present_iff :
    reported records handles = (handles.filter records.has).eraseDups ↔
      ∀ handle ∈ handles, records.value? handle ≠ some .null := by
  constructor
  · intro hsame handle hmem hnull
    have hpresent : handle ∈ (handles.filter records.has).eraseDups := by
      rw [List.mem_eraseDups, List.mem_filter]
      exact ⟨hmem, by simp [Listing.has, hnull]⟩
    rw [← hsame, mem_reported_iff] at hpresent
    obtain ⟨-, record, hrecord, hne⟩ := hpresent
    exact hne (Option.some.inj (hrecord.symm.trans hnull))
  · intro hnone
    have hsame : ∀ handle ∈ handles, counts records handle = records.has handle := by
      intro handle hmem
      have hrecord := hnone handle hmem
      unfold counts Listing.has
      cases hvalue : records.value? handle with
      | none =>
          rfl
      | some record =>
          rw [hvalue] at hrecord
          simpa using hrecord
    rw [reported, List.filter_congr hsame]

/-- If no handle is reported, those that are there have null records. -/
theorem absent_iff_of_unreported
    (hnone : reported records handles = []) :
    (∀ handle ∈ handles, handle ∉ records.keys) ↔
      ∀ handle ∈ handles, records.value? handle ≠ some .null := by
  refine forall₂_congr fun handle hmem => ?_
  rw [← Listing.value?_eq_none_iff]
  cases hvalue : records.value? handle with
  | none =>
      simp
  | some record =>
      have hnull : record = .null := by
        by_contra hne
        have hreported := (mem_reported_iff handle).mpr ⟨hmem, record, hvalue, hne⟩
        rw [hnone] at hreported
        cases hreported
      simp [hnull]

theorem deleted_leftover :
    Deleted handles (reported records handles) records (leftover records handles) where
  once := nodup_eraseDups _
  first_mention := rfl
  mem_reported_iff := mem_reported_iff
  all_reported_iff := reported_eq_present_iff
  kept := by
    intro handle hother
    unfold leftover
    split
    · rfl
    · rw [← left_takeOut, value?_left_takeOut, if_neg hother]
  all_gone_iff := by
    unfold leftover
    split
    · next hnone =>
        rw [absent_iff_of_unreported hnone]
        exact ⟨Or.inr, fun h => h.resolve_left fun hsome => hsome hnone⟩
    · next hsome =>
        refine iff_of_true (fun handle hmem => ?_) (.inl hsome)
        rw [← Listing.value?_eq_none_iff, ← left_takeOut, value?_left_takeOut, if_pos hmem]
  kept_order := by
    unfold leftover
    split
    · exact .refl records
    · exact List.filter_sublist

end Records

section Sessions

variable {session : Session}
variable {name : CatalogName}
variable {records : Fields}
variable (handles : List String)

/-- The changes that a deletion makes: none, or it writes its catalog. -/
def deletionChanges
    (name : CatalogName)
    (records : Fields)
    (handles : List String) :
    List Change :=
  if reported records handles = [] then [] else [.replace name (leftover records handles)]

theorem deletePlan_texts
    (hrecords : session.shelves name = .ok records) :
    deletePlan name (.arr (handles.map Json.str)) session.shelves =
      .ok (reported records handles, deletionChanges name records handles) := by
  have htaken : (takeOut handles records).2 = reported records handles :=
    handles_takeOut records handles
  unfold deletePlan deletionChanges leftover
  rw [hrecords, handlesIn_texts, ← left_takeOut]
  simp only [bind, Except.bind, htaken]
  by_cases hnone : reported records handles = []
  · simp [hnone]
    rfl
  · simp [hnone]
    rfl

/-- A deletion comes to its report, and makes its changes. -/
theorem run_deletion
    (hrecords : session.shelves name = .ok records) :
    ∃ after,
      (deletion name (.arr (handles.map Json.str))).run session =
        (.ok (reported records handles), after) ∧
      after.options =
        ((deletionChanges name records handles).map Change.access).foldl Access.apply
          session.options ∧
      after.shelves =
        (deletionChanges name records handles).foldl Shelves.change session.shelves := by
  rw [deletion_eq]
  obtain ⟨after, hrun, -, hoptions, hshelves⟩ :=
    run_of_plan (follows_deleteFrom name (.arr (handles.map Json.str)))
      (Session.intact_of_shelf hrecords) (deletePlan_texts handles hrecords)
  exact ⟨after, hrun, hoptions, hshelves⟩

/-- The catalogs after a deletion: one has the leftover, and the other two are as they were. -/
theorem shelves_deletionChanges
    {shelves : Shelves}
    (hrecords : shelves name = .ok records) :
    (deletionChanges name records handles).foldl Shelves.change shelves = fun other =>
      if other = name then .ok (leftover records handles) else shelves other := by
  unfold deletionChanges
  funext other
  by_cases hnone : reported records handles = []
  · by_cases hother : other = name
    · simp [hnone, hother, leftover, hrecords]
    · simp [hnone, hother]
  · by_cases hother : other = name
    · simp [hnone, hother, Shelves.change, Change.name, Change.records]
    · simp [hnone, hother, Shelves.change, Change.name]

/-- A deletion writes to no other catalog. -/
theorem name_of_deletionChanges
    {change : Change}
    (h : change ∈ deletionChanges name records handles) :
    change.name = name := by
  unfold deletionChanges at h
  split at h
  · cases h
  · rw [List.mem_singleton.mp h]
    rfl

end Sessions

section Owners

variable {handle : String}

/-- The owner of a handle is a catalog that has it. -/
theorem keeps_of_ownerOf
    {shelves : Shelves}
    {owner : CatalogName}
    (h : shelves.ownerOf handle = .ok (some owner)) :
    shelves.Keeps owner handle := by
  suffices hamong : ∀ names, shelves.ownerAmong handle names = .ok (some owner) →
      shelves.Keeps owner handle from hamong _ h
  intro names
  induction names with
  | nil =>
      intro hnone
      cases hnone
  | cons first rest ih =>
      intro hfound
      obtain ⟨records, hrecords, hrest⟩ := ok_of_bind hfound
      by_cases hhas : records.has handle = true
      · simp only [hhas, if_true] at hrest
        cases hrest
        exact ⟨records, hrecords, (Listing.has_iff_mem_keys handle records).mp hhas⟩
      · simp only [hhas] at hrest
        exact ih hrest

/-- Catalogs that are all given out, none of them with the handle. -/
theorem Shelves.Free.exists_holdings
    {shelves : Shelves}
    (hfree : shelves.Free handle) :
    ∃ holdings : Holdings, shelves = holdings.shelves ∧
      ¬ ∃ name, handle ∈ (holdings name).keys := by
  choose holdings hshelves hunknown using hfree
  exact ⟨holdings, funext hshelves, fun ⟨name, hmem⟩ => hunknown name hmem⟩

variable {session : Session}

/-- A handle that is in no catalog can be discovered. -/
theorem recordIfNew_of_free
    (hfree : session.shelves.Free handle)
    (script : DiscoveredScript)
    (hscript : script.handle = handle)
    (now : Int) :
    ((recordIfNew script now).run session).1 = .ok true := by
  obtain ⟨holdings, hshelves, hunknown⟩ := hfree.exists_holdings
  subst hscript
  obtain ⟨after, hrun, -⟩ :=
    run_recordIfNew now hshelves (recordIfNewPlan_of_unknown script now hunknown)
  rw [hrun]

/-- It can be registered, if the queue does not have it either. -/
theorem registerManual_of_free
    (hfree : session.shelves.Free handle)
    {data : Json}
    {form : Fields}
    (hform : validForm data = .ok form)
    (hhandle : (Record.field "handle" form).display = handle)
    {queue : Option RenderQueue}
    (hqueue : queue.any (·.has handle) = false)
    (now : Int) :
    ((registerManual data queue now).run session).1 = .ok handle := by
  obtain ⟨holdings, hshelves, hunknown⟩ := hfree.exists_holdings
  have howner := ownerOf_of_unknown hunknown
  have hplan : registerManualPlan data queue now holdings.shelves =
      .ok (handle,
        [.replace .manual ((holdings .manual).put handle (.obj (addedRecord form now)))]) := by
    unfold registerManualPlan freeView
    simp only [hform, hhandle, howner, hqueue, bind, Except.bind]
    rfl
  refine (result_perform hshelves (.registerManual data queue now)).trans ?_
  exact congrArg (Except.map Prod.fst) hplan

end Owners

section Result

variable {session : Session}
variable {name : CatalogName}
variable {records : Fields}

/-- Deletion deletes and reports what it has deleted, null records apart.  Of a catalog that is given
out let scripts be taken out under any handles.
* The work comes to a report, which names each of the handles once that had a record other than null,
  in the order of first mention.  These are all handles that were there exactly if none of them had a
  null record.
* What is left of the catalog keeps its order and the record of every other handle.  None of the
  handles is left exactly if the report names one or none of them had a null record.
* The other catalogs and the other options are left.
* The catalog no longer owns a handle that is not left; and if no other catalog has it, it can be
  discovered and registered. -/
theorem deletion_exact
    (hrecords : session.shelves name = .ok records)
    (handles : List String) :
    let done := (deletion name (.arr (handles.map Json.str))).run session
    ∃ reported left,
      done.1 = .ok reported ∧
      done.2.shelves name = .ok left ∧
      Deleted handles reported records left ∧
      (∀ other, other ≠ name → done.2.shelves other = session.shelves other) ∧
      (∀ option, option ≠ name.option →
        done.2.options.value? option = session.options.value? option) ∧
      ∀ handle, handle ∉ left.keys →
        ((ownerOf handle).run done.2).1 ≠ .ok (some name) ∧
        ((∀ other, other ≠ name →
            ∃ kept, session.shelves other = .ok kept ∧ handle ∉ kept.keys) →
          (∀ (script : DiscoveredScript) (now : Int), script.handle = handle →
            ((recordIfNew script now).run done.2).1 = .ok true) ∧
          ∀ (data : Json) (form : Fields) (queue : Option RenderQueue) (now : Int),
            validForm data = .ok form → (Record.field "handle" form).display = handle →
            queue.any (·.has handle) = false →
            ((registerManual data queue now).run done.2).1 = .ok handle) := by
  intro done
  obtain ⟨after, hrun, hoptions, hshelves⟩ := run_deletion handles hrecords
  rw [shelves_deletionChanges handles hrecords] at hshelves
  have hdone : done = (.ok (reported records handles), after) := hrun
  rw [hdone]
  have hleft : after.shelves name = .ok (leftover records handles) := by
    rw [hshelves]
    exact if_pos rfl
  have hothers : ∀ other, other ≠ name → after.shelves other = session.shelves other := by
    intro other hother
    rw [hshelves]
    exact if_neg hother
  have hkept : ∀ option, option ≠ name.option →
      after.options.value? option = session.options.value? option := by
    intro option hoption
    rw [hoptions]
    refine value?_changes (fun change hchange => ?_) session.options
    rw [name_of_deletionChanges handles hchange]
    exact hoption.symm
  refine ⟨_, _, rfl, hleft, deleted_leftover, hothers, hkept, fun handle hgone => ⟨?_, ?_⟩⟩
  · rw [(reads_ownerOf handle).result]
    intro howner
    obtain ⟨kept, hkept, hmem⟩ := keeps_of_ownerOf howner
    obtain rfl := Except.ok.inj (hleft.symm.trans hkept)
    exact hgone hmem
  · intro hunknown
    have hfree : after.shelves.Free handle := by
      intro other
      by_cases hother : other = name
      · rw [hother]
        exact ⟨_, hleft, hgone⟩
      · rw [hothers other hother]
        exact hunknown other hother
    exact ⟨fun script now hscript => recordIfNew_of_free hfree script hscript now,
      fun data form queue now hform hhandle hqueue =>
        registerManual_of_free hfree hform hhandle hqueue now⟩

/-- A store with removed scripts, some of which have damaged records. -/
def wornSession : Session :=
  { options :=
      [ ("psa_found_scripts", .obj [("lib", .obj [])]),
        ("psa_dequeued_scripts",
          .obj [("app", .obj []), ("torn", .bool false), ("void", .null), ("map", .arr [])]) ] }

/-- Of the handles one is unknown and one is named twice; a null record is left beside them.  The
script whose record was a truth value can be registered. -/
theorem deletion_exact_worn :
    let done := (restore (.arr [.str "map", .str "gone", .str "torn", .str "map"])).run wornSession
    done.1 = .ok ["map", "torn"] ∧
    done.2.shelves .removed = .ok [("app", .obj []), ("void", .null)] ∧
    ((registerManual (.obj [("handle", .str "torn"), ("src", .str "https://a.b/t.js")]) none
      3).run done.2).1 = .ok "torn" := by
  intro done
  have hrecords : wornSession.shelves .removed = .ok
      [("app", .obj []), ("torn", .bool false), ("void", .null), ("map", .arr [])] := rfl
  obtain ⟨reported, left, hreported, hleft, -, -, -, hfree⟩ :=
    deletion_exact hrecords ["map", "gone", "torn", "map"]
  have hdone : done.2.shelves .removed = .ok [("app", .obj []), ("void", .null)] := by
    decide +kernel
  refine ⟨by decide +kernel, hdone, ?_⟩
  obtain rfl : left = [("app", .obj []), ("void", .null)] :=
    Except.ok.inj (hleft.symm.trans hdone)
  have hunknown : ∀ other, other ≠ CatalogName.removed →
      ∃ kept, wornSession.shelves other = .ok kept ∧ "torn" ∉ kept.keys := by
    intro other hother
    cases other with
    | discovered =>
        exact ⟨[("lib", .obj [])], rfl, by decide⟩
    | removed =>
        exact absurd rfl hother
    | manual =>
        exact ⟨[], rfl, by decide⟩
  obtain ⟨-, hregistered⟩ := (hfree "torn" (by decide)).2 hunknown
  let form : Fields :=
    [ ("handle", .str "torn"), ("src", .str "https://a.b/t.js"), ("deps", .str ""),
      ("in_footer", .bool false), ("strategy", .str "none") ]
  exact hregistered _ form none 3 (by decide +kernel) (by decide +kernel) rfl

/-- A script whose record is null cannot be restored: nothing is reported, and the catalog goes on to
own it, so that it cannot be registered. -/
theorem null_record_stays :
    let session : Session := { options := [("psa_dequeued_scripts", .obj [("void", .null)])] }
    let done := (restore (.arr [.str "void"])).run session
    done.1 = .ok [] ∧
    done.2.shelves .removed = .ok [("void", .null)] ∧
    ((ownerOf "void").run done.2).1 = .ok (some .removed) ∧
    ((registerManual (.obj [("handle", .str "void"), ("src", .str "https://a.b/v.js")]) none
      3).run done.2).1 = .error (.duplicateHandle "void" (.catalog .removed)) := by
  decide +kernel

end Result

end PageScripts
