import PageScripts.Proofs.Catalog.Stamped
import PageScripts.Proofs.Rule.Canonical

/-!
# Stored rules are accepted as they are stored

As long as rules are checked by the registry of the vocabulary, whatever stands under the rules of
a record is what this registry would store of it.

* `Ruled`: the rules of a record, if it has any, are canonical.
* `ruled_of_brings`: operations write such records; where they do not write rules, they leave them
  as they were or leave them out.
* `setRulesPlan_again`, `step_setRules_again`: to set the rules that are set already changes nothing.

**Result.**  `stored_rules_canonical`: after every run from the empty store the stored rules are
valid and in normal form, and they can be taken out and set again without a change.
-/

namespace PageScripts

open Catalog

section Invariant

/-- The rules of a record are canonical, if it has any. -/
def RuledCanonically (record : Fields) : Prop :=
  ∀ stored, record.value? "rules" = some stored →
    ∃ fields, stored = .obj fields ∧ Canonical Vocabulary.registry fields

/-- The record is not in a managed catalog, or its rules are canonical. -/
def Ruled
    (name : CatalogName)
    (value : Json) : Prop :=
  ∀ (catalog : ManagedCatalog) (record : Fields),
    catalog.name = name → value = .obj record → RuledCanonically record

/-- The operation checks rules, if it sets any, as the registry of the vocabulary does. -/
def Operation.Validates : Operation → Prop
  | .setRules registry _ _ _ =>
      ∀ payload, checkRules registry payload = checkRules Vocabulary.registry payload
  | _ => True

variable {holdings : Holdings}
variable {operation : Operation}
variable {name : CatalogName}
variable {handle : String}

/-- Discovered scripts are not asked for rules. -/
theorem ruled_discovered (value : Json) :
    Ruled .discovered value := by
  intro catalog record hname
  cases catalog <;> cases hname

theorem ruled_of_canonically
    {record : Fields}
    (h : RuledCanonically record) :
    Ruled name (.obj record) := by
  rintro catalog _ - ⟨⟩
  exact h

/-- Operations write records with canonical rules, or with the rules that were there. -/
theorem ruled_of_brings
    (h : holdings.Tidy fun name _ value => Ruled name value)
    (hvalidates : operation.Validates)
    {value : Json}
    (hbrings : Brings holdings.shelves operation name handle value) :
    Ruled name value := by
  cases hbrings with
  | noted script now | sighted handle script | rendered handle script =>
      exact ruled_discovered _
  | moved hfound hrecord =>
      refine ruled_of_canonically fun stored hstored => ?_
      rw [value?_movedRecord, if_pos rfl] at hstored
      cases hstored
      exact ⟨defaultRules, rfl, canonical_defaultRules⟩
  | added hform =>
      have hrules : "rules" ∉ manualFields := by decide
      refine ruled_of_canonically fun stored hstored => ?_
      rw [value?_addedRecord, if_neg (by decide), if_neg hrules] at hstored
      cases hstored
  | edited hmanual hcurrent hform =>
      obtain rfl := Except.ok.inj hmanual
      refine ruled_of_canonically fun stored hstored => ?_
      rw [value?_editedRecord, if_neg (by decide), if_neg (by decide), if_pos rfl] at hstored
      have hruled : Ruled .manual (.obj _) := (h .manual).good _ _ hcurrent
      exact hruled .manual _ rfl rfl stored hstored
  | ruled hall hrecord hvalid =>
      refine ruled_of_canonically fun stored hstored => ?_
      rw [Listing.value?_put, if_pos rfl] at hstored
      cases hstored
      rw [hvalidates] at hvalid
      exact ⟨_, rfl,
        canonical_of_valid (Registry.orderly_of_built Registry.built_vocabulary) hvalid⟩
  | cleared hall hrecord =>
      refine ruled_of_canonically fun stored hstored => ?_
      rw [Listing.value?_without, if_pos rfl] at hstored
      cases hstored

theorem ruled_run
    {operations : List Operation}
    (hvalidates : ∀ operation ∈ operations, operation.Validates) :
    (Holdings.empty.run operations).Tidy fun name _ value => Ruled name value :=
  Holdings.tidy_run fun operation hmem _ h _ _ _ hbrings =>
    ruled_of_brings h (hvalidates operation hmem) hbrings

end Invariant

section Again

variable {session : Session}
variable {holdings : Holdings}
variable {catalog : ManagedCatalog}
variable {handle : String}
variable {record fields : Fields}

/-- To set canonical rules where they are set already is to write the records that are there. -/
theorem setRulesPlan_again
    (hsound : sound? (holdings catalog.name) handle = some record)
    (hstored : record.value? "rules" = some (.obj fields))
    (hcanonical : Canonical Vocabulary.registry fields) :
    setRulesPlan Vocabulary.registry catalog.name handle (.obj fields) holdings.shelves =
      .ok (RuleSet.ofFields fields, [.replace catalog.name (holdings catalog.name)]) := by
  have hview : managedRecordView catalog handle holdings.shelves =
      .ok (holdings catalog.name, record) := by
    rw [managedRecordView_shelves]
    have hglimpse : (holdings.at handle).sound? catalog.name = some record := hsound
    rw [hglimpse]
  have hnormal : (checkRules Vocabulary.registry (.obj fields)).normalized.getD [] = fields :=
    hcanonical.normal
  have hrecord : record.put "rules" (.obj fields) = record :=
    Listing.put_of_value? hstored
  have hrecords : (holdings catalog.name).put handle (.obj record) = holdings catalog.name :=
    Listing.put_of_value? (value?_of_sound? hsound)
  unfold setRulesPlan
  simp only [managedName_name, hview, hcanonical.valid, hnormal, hcanonical.written, hrecord, hrecords, bind,
    Except.bind, if_true]
  rfl

/-- So it changes none of the catalogs. -/
theorem step_setRules_again
    (hsound : sound? (holdings catalog.name) handle = some record)
    (hstored : record.value? "rules" = some (.obj fields))
    (hcanonical : Canonical Vocabulary.registry fields) :
    holdings.step (.setRules Vocabulary.registry catalog.name handle (.obj fields)) =
      holdings := by
  have hplan : Operation.plan (.setRules Vocabulary.registry catalog.name handle (.obj fields))
      holdings.shelves = .ok [.replace catalog.name (holdings catalog.name)] :=
    congrArg (Except.map Prod.snd) (setRulesPlan_again hsound hstored hcanonical)
  unfold Holdings.step
  rw [hplan]
  funext name
  by_cases hname : name = catalog.name
  · rw [hname]
    exact holdings.change_self (.replace catalog.name (holdings catalog.name))
  · exact holdings.change_of_ne hname

end Again

section Runs

variable {medium : Medium}
variable {operations : List Operation}
variable {catalog : ManagedCatalog}
variable {records : Fields}
variable {handle : String}
variable {value : Json}

/-- Stored rules are valid and canonical.  After every run from the empty store that checks rules by
the registry of the vocabulary, the records of the managed catalogs are objects.  What stands under
the rules of such a record is an object that is accepted and its own normal form; and to set the
rules that are answered for the script comes to these rules and leaves all catalogs. -/
theorem stored_rules_canonical
    (hvalidates : ∀ operation ∈ operations, operation.Validates)
    (hrecords : (({ medium } : Session).run operations).shelves catalog.name = .ok records)
    (hmem : (handle, value) ∈ records) :
    let session := ({ medium } : Session).run operations
    ∃ record : Fields, value = .obj record ∧
      ∀ stored, record.value? "rules" = some stored →
        (∃ fields, stored = .obj fields ∧
          (checkRules Vocabulary.registry stored).isValid = true ∧
          (checkRules Vocabulary.registry stored).normalized = some fields) ∧
        ∃ rules, session.rules catalog handle = .ok (some rules) ∧
          let again := Operation.setRules Vocabulary.registry catalog.name handle (.obj rules.wire)
          (again.perform session).1 = .ok rules ∧
          ∀ name, ∃ kept,
            session.shelves name = .ok kept ∧ (again.after session).shelves name = .ok kept := by
  intro session
  obtain ⟨hshelves, rfl⟩ := holdings_of_run hrecords
  have hstamped := stamped_run operations
  obtain ⟨record, rfl, -⟩ := (hstamped catalog.name).good handle value hmem
  refine ⟨record, rfl, fun stored hstored => ?_⟩
  have hruled : Ruled catalog.name (.obj record) :=
    (ruled_run hvalidates catalog.name).good handle _ hmem
  obtain ⟨fields, rfl, hcanonical⟩ := hruled catalog record rfl rfl stored hstored
  have hsound := sound?_of_mem (hstamped catalog.name).distinct hmem
  have hruling : (Holdings.empty.run operations).ruling catalog handle =
      some (some (RuleSet.ofFields fields)) := by
    simp only [Holdings.ruling, rulingOf, hsound, Option.map_some, Record.field, hstored]
    rfl
  refine ⟨⟨fields, rfl, hcanonical.valid, congrArg some hcanonical.normal⟩,
    RuleSet.ofFields fields, ?_, ?_⟩
  · rw [rules_of_shelves catalog handle hshelves hstamped, hruling]
    rfl
  · rw [hcanonical.written]
    intro again
    constructor
    · exact (result_perform hshelves again).trans
        (congrArg (Except.map Prod.fst) (setRulesPlan_again hsound hstored hcanonical))
    · intro name
      refine ⟨Holdings.empty.run operations name, congrFun hshelves name, ?_⟩
      have hafter := shelves_after hshelves again
      rw [step_setRules_again hsound hstored hcanonical] at hafter
      exact congrFun hafter name

/-- A manual script gets rules in need of tidying, two of which become one, and is edited. -/
def tidiedRun : List Operation :=
  [ .registerManual (.obj [("handle", .str "map"), ("src", .str "https://a.b/m.js")]) none 1,
    .setRules Vocabulary.registry .manual "map"
      (.obj
        [ ("__mode", .str " ALL"), (" is_tax ", .arr [.str " city ", .int 3]),
          ("__neg:is_home", .bool true), ("is_tax", .str "town ") ]),
    .updateManual "map" [("ver", .int 2)] 3 ]

/-- The one condition has the place of the first and the argument of the second, and the mode comes
last. -/
theorem stored_rules_canonical_tidied :
    let session := ({} : Session).run tidiedRun
    let fields : Fields :=
      [("is_tax", .str "town"), ("__neg:is_home", .bool true), ("__mode", .str "all")]
    (checkRules Vocabulary.registry (.obj fields)).normalized = some fields ∧
    ∃ rules, session.rules .manual "map" = .ok (some rules) ∧
      let again := Operation.setRules Vocabulary.registry .manual "map" (.obj rules.wire)
      (again.perform session).1 = .ok rules ∧
      (again.after session).shelves .manual = session.shelves .manual := by
  intro session fields
  have hvalidates : ∀ operation ∈ tidiedRun, operation.Validates := by
    simp [tidiedRun, Operation.Validates]
  let record : Fields :=
    [ ("src", .str "https://a.b/m.js"), ("ver", .int 2), ("deps", .str ""),
      ("in_footer", .bool false), ("strategy", .str "none"), ("rules", .obj fields),
      ("added_on", .int 1), ("updated_on", .int 3) ]
  have hrecords : session.shelves ManagedCatalog.manual.name = .ok [("map", .obj record)] := by
    decide +kernel
  obtain ⟨_, hrecord, hrules⟩ :=
    stored_rules_canonical hvalidates hrecords List.mem_cons_self
  cases hrecord
  obtain ⟨⟨_, hfields, -, hnormal⟩, rules, hanswer, hagain, hkept⟩ := hrules (.obj fields) rfl
  cases hfields
  obtain ⟨kept, hbefore, hafter⟩ := hkept .manual
  exact ⟨hnormal, rules, hanswer, hagain, hafter.trans hbefore.symm⟩

end Runs

end PageScripts
