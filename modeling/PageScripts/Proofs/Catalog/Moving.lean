import PageScripts.Proofs.Catalog.Run
import PageScripts.Proofs.Catalog.Written

/-!
# Moving scripts loses none

Discovered scripts are moved to the removed ones in one go: both catalogs are read, the records go
over one after another, and then both catalogs are written back.  The handles may be unknown, be
named more than once, or have records that are no objects.

**Records.**
* `movable`: the handles that can be moved, in the order in which they are first named.
* `handles_moveAll`, `left_moveAll`, `grown_moveAll`: which handles are moved, what is left of the
  first catalog, and what has become of the second.

**Sessions.**
* `shelves_move`: the catalogs after a move.
* `shelves_run_moves`: to move scripts one at a time comes to the same.

**Result.**  `dequeue_conserves`: exactly the movable scripts change their place, nothing else
changes, and neither the order nor the repetition of the handles matters.
-/

namespace PageScripts

open Catalog

section Defs

/-- The handles whose record is an object, each once, in the order in which they are first
named. -/
def movable
    (found : Fields)
    (handles : List String) :
    List String :=
  (handles.filter fun handle => (sound? found handle).isSome).eraseDups

/-- To move scripts. -/
def Operation.move
    (handles : List String)
    (now : Int) :
    Operation :=
  .dequeue (.arr (handles.map Json.str)) now

/-- The catalogs as maps: what stands in each of them under a handle. -/
def Shelves.views
    (shelves : Shelves)
    (name : CatalogName) :
    Except Fault (String → Option Json) :=
  (shelves name).map fun records handle => records.value? handle

/-- Two catalogs come from two others by moving some handles: these leave the first catalog, and
their records come to the second with a time and with rules, and are kept in all else. -/
structure MovedOver
    (now : Int)
    (moved : List String)
    (found removed left grown : Fields) : Prop where
  gone : ∀ handle ∈ moved, left.value? handle = none
  stayed : ∀ handle ∉ moved, left.value? handle = found.value? handle
  brought : ∀ handle ∈ moved, ∃ old new : Fields,
    found.value? handle = some (.obj old) ∧
    grown.value? handle = some (.obj new) ∧
    new.value? "dequeued" = some (.int now) ∧
    new.value? "rules" = some (.obj [("is_frontend", .bool true)]) ∧
    ∀ field, field ≠ "dequeued" → field ≠ "rules" → new.value? field = old.value? field
  kept : ∀ handle ∉ moved, grown.value? handle = removed.value? handle

end Defs

section Records

variable (now : Int)
variable {handle : String}
variable (handles : List String)
variable (found removed : Fields)

theorem mem_movable_iff :
    handle ∈ movable found handles ↔ handle ∈ handles ∧ (sound? found handle).isSome := by
  rw [movable, List.mem_eraseDups, List.mem_filter]

theorem sound?_without (first : String) :
    sound? (found.without first) handle = if first = handle then none else sound? found handle := by
  unfold sound?
  rw [Listing.value?_without]
  by_cases hfirst : first = handle
  · rw [if_pos hfirst, if_pos hfirst]
    rfl
  · rw [if_neg hfirst, if_neg hfirst]

/-- A handle without a sound record is passed over. -/
theorem movable_cons_of_none
    {first : String}
    (hsound : sound? found first = none) :
    movable found (first :: handles) = movable found handles := by
  simp [movable, hsound]

/-- A handle that has been moved is not moved once more. -/
theorem movable_cons_of_some
    {first : String}
    {record : Fields}
    (hsound : sound? found first = some record) :
    movable found (first :: handles) = first :: movable (found.without first) handles := by
  have hlater : ∀ handle, (sound? (found.without first) handle).isSome =
      (!handle == first && (sound? found handle).isSome) := by
    intro handle
    rw [sound?_without]
    by_cases hfirst : first = handle
    · simp [hfirst]
    · simp [hfirst, Ne.symm hfirst]
  exact eraseDups_filter_cons (by rw [hsound]; rfl) hlater handles

theorem nodup_movable :
    (movable found handles).Nodup :=
  nodup_eraseDups _

/-- The handles that are moved are those that can be. -/
theorem handles_moveAll :
    (moveAll now handles found removed).2.2 = movable found handles := by
  induction handles generalizing found removed with
  | nil =>
      rfl
  | cons first rest ih =>
      cases hsound : sound? found first with
      | none =>
          simp only [moveAll, hsound, ih, movable_cons_of_none rest found hsound]
      | some record =>
          simp only [moveAll, hsound, ih, movable_cons_of_some rest found hsound]

/-- What is moved leaves the first catalog. -/
theorem left_moveAll :
    (moveAll now handles found removed).1.value? handle =
      if handle ∈ movable found handles then none else found.value? handle := by
  induction handles generalizing found removed with
  | nil =>
      simp [moveAll, movable]
  | cons first rest ih =>
      cases hsound : sound? found first with
      | none =>
          simp only [moveAll, hsound, ih, movable_cons_of_none rest found hsound]
      | some record =>
          simp only [moveAll, hsound, ih, movable_cons_of_some rest found hsound,
            Listing.value?_without, List.mem_cons]
          by_cases hfirst : first = handle
          · simp [hfirst]
          · simp [hfirst, Ne.symm hfirst]

/-- What is moved comes to the second catalog as it was in the first. -/
theorem grown_moveAll :
    (moveAll now handles found removed).2.1.value? handle =
      if handle ∈ movable found handles then
        (sound? found handle).map fun record => .obj (movedRecord now record)
      else
        removed.value? handle := by
  induction handles generalizing found removed with
  | nil =>
      simp [moveAll, movable]
  | cons first rest ih =>
      cases hsound : sound? found first with
      | none =>
          simp only [moveAll, hsound, ih, movable_cons_of_none rest found hsound]
      | some record =>
          simp only [moveAll, hsound, ih, movable_cons_of_some rest found hsound, sound?_without,
            Listing.value?_put, List.mem_cons]
          by_cases hfirst : first = handle
          · -- The rest may name the handle once more, but there is no record left to move.
            subst hfirst
            simp [hsound, mem_movable_iff, sound?_without]
          · simp [hfirst, Ne.symm hfirst]

theorem movedOver_moveAll :
    MovedOver now (movable found handles) found removed
      (moveAll now handles found removed).1 (moveAll now handles found removed).2.1 where
  gone := by
    intro handle hmoved
    rw [left_moveAll, if_pos hmoved]
  stayed := by
    intro handle hmoved
    rw [left_moveAll, if_neg hmoved]
  brought := by
    intro handle hmoved
    obtain ⟨-, hsome⟩ := (mem_movable_iff handles found).mp hmoved
    obtain ⟨old, hold⟩ := Option.isSome_iff_exists.mp hsome
    refine ⟨old, movedRecord now old, value?_of_sound? hold, ?_, ?_, ?_, ?_⟩
    · rw [grown_moveAll, if_pos hmoved, hold]
      rfl
    · rw [value?_movedRecord]
      rfl
    · rw [value?_movedRecord]
      rfl
    · intro field htime hrules
      rw [value?_movedRecord, if_neg hrules]
      exact if_neg htime
  kept := by
    intro handle hmoved
    rw [grown_moveAll, if_neg hmoved]

/-- If nothing can be moved, both catalogs are left. -/
theorem moveAll_of_not_movable
    (h : movable found handles = []) :
    moveAll now handles found removed = (found, removed, []) := by
  induction handles with
  | nil =>
      rfl
  | cons first rest ih =>
      cases hsound : sound? found first with
      | none =>
          rw [movable_cons_of_none rest found hsound] at h
          simpa only [moveAll, hsound] using ih h
      | some record =>
          rw [movable_cons_of_some rest found hsound] at h
          cases h

/-- The same handles can be moved, whatever their order and however often they are named. -/
theorem mem_movable_congr
    {others : List String}
    (hsame : ∀ handle, handle ∈ others ↔ handle ∈ handles) :
    handle ∈ movable found others ↔ handle ∈ movable found handles := by
  rw [mem_movable_iff, mem_movable_iff, hsame]

end Records

namespace MovedOver

variable {now : Int}
variable {moved : List String}
variable {found removed left grown : Fields}

/-- No handle is lost, and none comes in. -/
theorem mem_keys_iff
    (hover : MovedOver now moved found removed left grown)
    (handle : String) :
    handle ∈ left.keys ∨ handle ∈ grown.keys ↔ handle ∈ found.keys ∨ handle ∈ removed.keys := by
  by_cases hmoved : handle ∈ moved
  · obtain ⟨old, new, hold, hnew, -⟩ := hover.brought handle hmoved
    have hfound := Listing.mem_keys_of_value? hold
    have hgrown := Listing.mem_keys_of_value? hnew
    simp [hfound, hgrown]
  · rw [← Listing.has_iff_mem_keys, ← Listing.has_iff_mem_keys, ← Listing.has_iff_mem_keys,
      ← Listing.has_iff_mem_keys]
    unfold Listing.has
    rw [hover.stayed handle hmoved, hover.kept handle hmoved]

/-- If no handle was in both catalogs, the second one keeps all its records. -/
theorem kept_of_apart
    (hover : MovedOver now moved found removed left grown)
    (hapart : ∀ handle ∈ found.keys, handle ∉ removed.keys)
    {handle : String}
    {value : Json}
    (hvalue : removed.value? handle = some value) :
    grown.value? handle = some value := by
  have hmoved : handle ∉ moved := by
    intro hmoved
    obtain ⟨old, new, hold, -⟩ := hover.brought handle hmoved
    exact hapart handle (Listing.mem_keys_of_value? hold) (Listing.mem_keys_of_value? hvalue)
  rw [hover.kept handle hmoved, hvalue]

end MovedOver

section Sessions

variable (now : Int)
variable {session : Session}
variable {found removed : Fields}
variable (handles : List String)

theorem handlesIn_texts :
    handlesIn (.arr (handles.map Json.str)) = .ok handles := by
  have hnone : (handles.map Json.str).find? (fun item => !item.isHashable) = none := by
    simp [Json.isHashable]
  unfold handlesIn
  simp only [Json.elements, bind, Except.bind, hnone]
  simp [Json.text?, Function.comp_def]
  rfl

/-- The changes that a move makes: none, or it writes both catalogs. -/
def moveChanges
    (now : Int)
    (handles : List String)
    (found removed : Fields) :
    List Change :=
  if movable found handles = [] then
    []
  else
    [ .replace .discovered (moveAll now handles found removed).1,
      .replace .removed (moveAll now handles found removed).2.1 ]

/-- What a move comes to, if both catalogs are given out. -/
theorem outcome_move
    (hfound : session.shelves .discovered = .ok found)
    (hremoved : session.shelves .removed = .ok removed) :
    (Operation.move handles now).outcome session.shelves =
      .ok (movable found handles, moveChanges now handles found removed) := by
  have hplan : (Operation.move handles now).outcome session.shelves =
      dequeuePlan (.arr (handles.map Json.str)) now session.shelves := rfl
  have hmoved := handles_moveAll now handles found removed
  rw [hplan]
  unfold dequeuePlan moveChanges
  rw [hfound, hremoved, handlesIn_texts]
  simp only [bind, Except.bind, hmoved]
  by_cases hnone : movable found handles = []
  · simp [hnone]
    rfl
  · simp [hnone]
    rfl

/-- A move is some reading, and then its changes. -/
theorem after_move
    (hfound : session.shelves .discovered = .ok found)
    (hremoved : session.shelves .removed = .ok removed) :
    ∃ reads notices, Action.OnlyReads reads ∧
      (Operation.move handles now).after session =
        session.advance
          (reads ++ (moveChanges now handles found removed).map Change.access) notices := by
  have hintact := Session.intact_of_shelf hfound
  obtain ⟨reads, notices, hreads, hafter⟩ := (Operation.move handles now).after_eq session
  refine ⟨reads, notices, hreads, ?_⟩
  unfold Operation.changes at hafter
  rw [Operation.plan_eq_outcome, outcome_move now handles hfound hremoved] at hafter
  simpa only [Except.map, Session.taken, if_neg hintact] using hafter

/-- The catalogs after a move: the first two are as they come from moving the records, and the
third is left. -/
theorem shelves_move
    (hfound : session.shelves .discovered = .ok found)
    (hremoved : session.shelves .removed = .ok removed) :
    ((Operation.move handles now).after session).shelves = fun name =>
      match name with
      | .discovered => .ok (moveAll now handles found removed).1
      | .removed => .ok (moveAll now handles found removed).2.1
      | .manual => session.shelves .manual := by
  obtain ⟨reads, notices, hreads, hafter⟩ := after_move now handles hfound hremoved
  rw [hafter, Session.shelves_advance_changes (Session.intact_of_shelf hfound) hreads]
  unfold moveChanges
  funext name
  by_cases hnone : movable found handles = []
  · rw [if_pos hnone, moveAll_of_not_movable now handles found removed hnone]
    cases name with
    | discovered =>
        exact hfound
    | removed =>
        exact hremoved
    | manual =>
        rfl
  · rw [if_neg hnone]
    cases name <;> rfl

/-- To move scripts one at a time comes to the same. -/
theorem shelves_run_moves
    (hfound : session.shelves .discovered = .ok found)
    (hremoved : session.shelves .removed = .ok removed) :
    (session.run (handles.map fun handle => .move [handle] now)).shelves =
      ((Operation.move handles now).after session).shelves := by
  rw [shelves_move now handles hfound hremoved]
  induction handles generalizing session found removed with
  | nil =>
      funext name
      cases name with
      | discovered =>
          exact hfound
      | removed =>
          exact hremoved
      | manual =>
          rfl
  | cons first rest ih =>
      have hone := shelves_move now [first] hfound hremoved
      have htail := ih (congrFun hone .discovered) (congrFun hone .removed)
      refine htail.trans ?_
      funext name
      rw [hone]
      -- Both ways the first record goes over, if there is one, and the rest follows.
      cases hsound : sound? found first <;> cases name <;> simp [moveAll, hsound]

/-- The result of a move is the handles that can be moved. -/
theorem result_move
    (hfound : session.shelves .discovered = .ok found)
    (hremoved : session.shelves .removed = .ok removed) :
    ((Operation.move handles now).perform session).1 = .ok (movable found handles) := by
  obtain ⟨reads, notices, -, hperform⟩ := (Operation.move handles now).perform_eq session
  have hsettled := Session.settle_of_intact (Session.intact_of_shelf hfound) reads notices
    (movable found handles) (moveChanges now handles found removed)
  rw [hperform, outcome_move now handles hfound hremoved]
  exact congrArg Prod.fst hsettled

/-- A move leaves the options other than those of the two catalogs. -/
theorem value?_after_move
    (hfound : session.shelves .discovered = .ok found)
    (hremoved : session.shelves .removed = .ok removed)
    {option : String}
    (hfirst : option ≠ CatalogName.discovered.option)
    (hsecond : option ≠ CatalogName.removed.option) :
    ((Operation.move handles now).after session).options.value? option =
      session.options.value? option := by
  obtain ⟨reads, notices, hreads, hafter⟩ := after_move now handles hfound hremoved
  rw [hafter, Session.options_advance, List.foldl_append,
    Access.foldl_apply_of_reads reads session.options hreads]
  refine value?_changes (fun change hchange => ?_) session.options
  unfold moveChanges at hchange
  split at hchange
  · cases hchange
  · simp only [List.mem_cons, List.not_mem_nil, or_false] at hchange
    rcases hchange with rfl | rfl
    · exact hfirst.symm
    · exact hsecond.symm

/-- Where nothing can be moved, a move only reads. -/
theorem readFrom_move
    (hfound : session.shelves .discovered = .ok found)
    (hremoved : session.shelves .removed = .ok removed)
    (hnone : movable found handles = []) :
    session.ReadFrom ((Operation.move handles now).after session) := by
  obtain ⟨reads, notices, hreads, hafter⟩ := after_move now handles hfound hremoved
  rw [moveChanges, if_pos hnone, List.map_nil, List.append_nil] at hafter
  rw [hafter]
  exact session.readFrom_advance hreads notices

/-- As maps the catalogs after a move rest on which handles are named, not on their order or their
repetition. -/
theorem views_move_congr
    (hfound : session.shelves .discovered = .ok found)
    (hremoved : session.shelves .removed = .ok removed)
    {others : List String}
    (hsame : ∀ handle, handle ∈ others ↔ handle ∈ handles) :
    ((Operation.move others now).after session).shelves.views =
      ((Operation.move handles now).after session).shelves.views := by
  rw [shelves_move now handles hfound hremoved, shelves_move now others hfound hremoved]
  funext name
  unfold Shelves.views
  cases name with
  | discovered =>
      simp only [Except.map, left_moveAll, mem_movable_congr handles found hsame]
  | removed =>
      simp only [Except.map, grown_moveAll, mem_movable_congr handles found hsame]
  | manual =>
      rfl

/-- Moving scripts loses none.  On a store that gives out the discovered and the removed scripts, and
has no handle in both, let any handles be moved.
* The result names each handle once whose record was an object, in the order of first mention.
* These handles leave the discovered scripts, and each comes to the removed ones with the record that
  it had, but for the time of the move and the rules; all else in the two catalogs is kept.  So no
  handle is lost, and no record of a removed script is written over.
* All other options are left, the one of the manual scripts among them.
* As maps the catalogs do not rest on the order of the handles or on how often they are named, and
  to move the scripts one at a time comes to the same.
* If nothing is moved, nothing is written. -/
theorem dequeue_conserves
    (hfound : session.shelves .discovered = .ok found)
    (hremoved : session.shelves .removed = .ok removed)
    (hapart : ∀ handle ∈ found.keys, handle ∉ removed.keys) :
    let move := Operation.move handles now
    let moved := (handles.filter fun handle => (sound? found handle).isSome).eraseDups
    let after := move.after session
    (move.perform session).1 = .ok moved ∧
    moved.Nodup ∧
    (∃ left grown,
      after.shelves .discovered = .ok left ∧
      after.shelves .removed = .ok grown ∧
      MovedOver now moved found removed left grown ∧
      (∀ handle,
        handle ∈ left.keys ∨ handle ∈ grown.keys ↔ handle ∈ found.keys ∨ handle ∈ removed.keys) ∧
      ∀ handle value, removed.value? handle = some value → grown.value? handle = some value) ∧
    after.shelves .manual = session.shelves .manual ∧
    (∀ option, option ≠ CatalogName.discovered.option → option ≠ CatalogName.removed.option →
      after.options.value? option = session.options.value? option) ∧
    (∀ others, (∀ handle, handle ∈ others ↔ handle ∈ handles) →
      ((Operation.move others now).after session).shelves.views = after.shelves.views) ∧
    (session.run (handles.map fun handle => .move [handle] now)).shelves = after.shelves ∧
    (moved = [] → session.ReadFrom after) := by
  intro move moved after
  have hshelves : after.shelves = _ := shelves_move now handles hfound hremoved
  have hover : MovedOver now moved found removed _ _ := movedOver_moveAll now handles found removed
  refine ⟨result_move now handles hfound hremoved, nodup_movable handles found, ?_,
    congrFun hshelves .manual, ?_, ?_, shelves_run_moves now handles hfound hremoved,
    readFrom_move now handles hfound hremoved⟩
  · exact ⟨_, _, congrFun hshelves .discovered, congrFun hshelves .removed, hover,
      hover.mem_keys_iff, fun handle value hvalue => hover.kept_of_apart hapart hvalue⟩
  · exact fun option hfirst hsecond => value?_after_move now handles hfound hremoved hfirst hsecond
  · exact fun others hsame => views_move_congr now handles hfound hremoved hsame

/-- A store with two discovered scripts, a damaged record between them, and a removed script. -/
def crowdedSession : Session :=
  { options :=
      [ ("psa_found_scripts",
          .obj
            [ ("app", .obj [("src", .str "/app.js"), ("rules", .obj [])]),
              ("torn", .int 7),
              ("map", .obj [("src", .str "/map.js"), ("size", .int 3)]) ]),
        ("psa_dequeued_scripts", .obj [("old", .null)]),
        ("psa_manual_scripts", .int 3) ] }

/-- Some of the handles are unknown, damaged, or named twice; the manual scripts are corrupt. -/
theorem dequeue_conserves_crowded :
    let move := Operation.move ["map", "gone", "app", "torn", "map"] 9
    (move.perform crowdedSession).1 = .ok ["map", "app"] ∧
    ((Operation.move ["torn", "app", "gone", "map"] 9).after crowdedSession).shelves.views =
      (move.after crowdedSession).shelves.views ∧
    (crowdedSession.run
        (["map", "gone", "app", "torn", "map"].map fun handle => .move [handle] 9)).shelves =
      (move.after crowdedSession).shelves := by
  intro move
  have hfound : crowdedSession.shelves .discovered =
      .ok [ ("app", .obj [("src", .str "/app.js"), ("rules", .obj [])]), ("torn", .int 7),
        ("map", .obj [("src", .str "/map.js"), ("size", .int 3)]) ] := rfl
  have hremoved : crowdedSession.shelves .removed = .ok [("old", .null)] := rfl
  obtain ⟨hresult, -, -, -, -, hsame, hrun, -⟩ := dequeue_conserves 9
    ["map", "gone", "app", "torn", "map"] hfound hremoved (by decide)
  refine ⟨hresult.trans rfl, hsame ["torn", "app", "gone", "map"] fun handle => ?_, hrun⟩
  simp only [List.mem_cons, List.not_mem_nil, or_false]
  tauto

end Sessions

end PageScripts
