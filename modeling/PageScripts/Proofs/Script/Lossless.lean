import PageScripts.Proofs.Rule.Wire
import PageScripts.Proofs.Script.Reading
import PageScripts.Script.Discovered

/-!
# Records of scripts are read and written without drift

Each field of a record has a reading that may lose something.  What it comes to is written in a
form that has the same reading, so that a script does not change when it is stored once more.

* `display_ne_empty`: a value that means a version is not displayed as the empty text, by which it
  would be taken for none.
* `DiscoveredScript.Settled`, `ManagedScript.Settled`: scripts whose fields are what a reading can
  come to; `settled_ofFields`: all scripts that are read are such.
* `ofFields_toRecord`: reading undoes writing for these.
* `ManagedScript.value?_toRecord`: what stands under any name in the record that is written.

**Result.**  `managed_lossless`: the record of a script that was read is read as this script, and
keeps the fields and the rules of the record it was read from.
-/

namespace PageScripts

section Displays

theorem Number.Decimal.text_ne_nil (d : Number.Decimal) :
    d.text ≠ [] := by
  unfold Number.Decimal.text
  dsimp only
  split
  · split
    · simp
    · split <;> simp
  · simp

theorem Binary64.text_ne_empty (x : Binary64) :
    x.text ≠ "" := by
  cases x with
  | finite negative significand exponent =>
      have hbody : (if significand = 0 then ['0', '.', '0'] else
          (Number.shortest significand exponent).text) ≠ [] := by
        split
        · simp
        · exact Number.Decimal.text_ne_nil _
      cases negative with
      | false =>
          simpa [Binary64.text] using hbody
      | true =>
          simp [Binary64.text]
  | infinite negative =>
      cases negative <;> decide
  | nan =>
      decide

theorem toString_int_ne_empty (n : Int) :
    toString n ≠ "" := by
  cases n with
  | ofNat n =>
      exact fun h => Nat.toDigits_ne_nil (String.ofList_eq_empty_iff.mp h)
  | negSucc n =>
      intro h
      have hlength := congrArg String.length h
      simp [toString, Int.repr] at hlength

/-- Only the empty text is displayed as the empty text. -/
theorem Json.display_ne_empty
    {value : Json}
    (h : ¬ value.NoVersion) :
    value.display ≠ "" := by
  cases value with
  | null =>
      exact absurd trivial h
  | bool b =>
      cases b <;> decide
  | int n =>
      exact toString_int_ne_empty n
  | float x =>
      exact x.text_ne_empty
  | str s =>
      exact h
  | arr items =>
      simp [Json.display, Json.literal]
  | obj fields =>
      simp [Json.display, Json.literal]

end Displays

section Fields

open Record

theorem versionOf_ne_empty (value : Json) :
    versionOf value ≠ some "" := by
  rw [versionOf_eq]
  by_cases h : value.NoVersion
  · simp [h]
  · simpa [h] using Json.display_ne_empty h

/-- A version that is stored as a text, or as the empty text if there is none. -/
theorem versionOf_text
    {version : Option String}
    (h : version ≠ some "") :
    versionOf (.str (version.getD "")) = version := by
  cases version with
  | none =>
      decide
  | some v =>
      have hv : v ≠ "" := fun heq => h (congrArg some heq)
      rw [versionOf_eq, Option.getD_some, if_neg (show ¬ Json.NoVersion (.str v) from hv)]
      rfl

theorem versionOf_versionJson
    {version : Option String}
    (h : version ≠ some "") :
    versionOf (versionJson version) = version := by
  cases version with
  | none =>
      decide
  | some v =>
      exact versionOf_text h

/-- A text is read back, also the empty one. -/
theorem textField_of_str
    {name text : String}
    {record : Fields}
    (h : record.value? name = some (.str text)) :
    textField name record = text := by
  by_cases hempty : text = ""
  · subst hempty
    simp [textField, field, h, Json.truth]
  · simp [textField, field, h, Json.truth, hempty]

theorem wholeNumber_numberJson (number : Option Int) :
    wholeNumber (numberJson number) = .ok number := by
  cases number <;> rfl

theorem tidyHandles_parseDependencies (value : Json) :
    tidyHandles (parseDependencies value) = parseDependencies value := by
  cases value with
  | str s =>
      exact tidyHandles_tidyHandles _
  | arr items =>
      exact tidyHandles_tidyHandles _
  | _ =>
      rfl

/-- Dependencies that were read once are read back. -/
theorem Dependencies.ofJson_toJson_ofJson (value : Json) :
    ofJson (ofJson value).toJson = ofJson value := by
  cases value with
  | str s =>
      rfl
  | arr items =>
      simp only [ofJson, toJson, parseDependencies, filterMap_text?_str, tidyHandles_tidyHandles]
  | _ =>
      rfl

end Fields

namespace DiscoveredScript

open Record

/-- The script is one that a record can be read as. -/
structure Settled (script : DiscoveredScript) : Prop where
  version : script.version ≠ some ""
  deps : tidyHandles script.deps = script.deps

/-- Reading undoes writing. -/
theorem ofFields_toRecord
    {script : DiscoveredScript}
    (settled : script.Settled) :
    ofFields script.handle script.toRecord = .ok script := by
  have hsrc : textField "src" script.toRecord = script.src := textField_of_str rfl
  have hversion : versionField "ver" script.toRecord = script.version :=
    versionOf_text settled.version
  have hdeps : parseDependencies (field "deps" script.toRecord) = script.deps :=
    (parseDependencies_list script.deps).trans settled.deps
  have hstrategy : LoadStrategy.ofJson (field "strategy" script.toRecord) = script.strategy :=
    LoadStrategy.ofText_word script.strategy
  have hflag : flagField "in_footer" script.toRecord = script.inFooter := rfl
  have hsize : wholeNumber (field "size" script.toRecord) = .ok script.size :=
    wholeNumber_numberJson script.size
  have hmtime : wholeNumber (field "mtime" script.toRecord) = .ok script.mtime :=
    wholeNumber_numberJson script.mtime
  have hfound : timeField "found" script.toRecord = .ok script.found := rfl
  unfold ofFields
  rw [hsrc, hversion, hdeps, hstrategy, hflag, hsize, hmtime, hfound]
  rfl

end DiscoveredScript

namespace ManagedScript

open Record

section Writing

/-- The members of the record that are always written. -/
def ownMembers (script : ManagedScript) : Fields :=
  [ ("src", .str script.src),
    ("ver", versionJson script.version),
    ("deps", script.deps.toJson),
    ("in_footer", .bool script.inFooter),
    ("strategy", .str script.strategy.word),
    (script.catalog.timeKey, .int script.transition) ]

/-- The rules as they are written, if there are any. -/
def storedRules? (script : ManagedScript) : Option Json :=
  script.rules.map fun rules => .obj rules.wire

/-- A field that is kept as it is. -/
def isExtra
    (catalog : ManagedCatalog)
    (name : String) :
    Bool :=
  !(knownFields catalog).contains name

variable (script : ManagedScript)

theorem distinct_ownMembers :
    script.ownMembers.Distinct := by
  change ["src", "ver", "deps", "in_footer", "strategy", script.catalog.timeKey].Nodup
  cases script.catalog <;> decide

theorem toRecord_eq :
    script.toRecord =
      (script.extra.putAll script.ownMembers).assign "rules" script.storedRules? := by
  unfold toRecord storedRules?
  cases script.rules <;> rfl

/-- What stands in the record that is written. -/
theorem value?_toRecord (name : String) :
    script.toRecord.value? name =
      if name = "rules" then script.storedRules?
      else (script.ownMembers.value? name).or (script.extra.value? name) := by
  rw [toRecord_eq, Listing.value?_assign, Listing.value?_putAll script.distinct_ownMembers]
  simp only [eq_comm (b := name)]

theorem value?_toRecord_of_own
    {name : String}
    {value : Json}
    (hname : name ≠ "rules")
    (hown : script.ownMembers.value? name = some value) :
    script.toRecord.value? name = some value := by
  rw [value?_toRecord, if_neg hname, hown, Option.some_or]

theorem value?_timeKey :
    script.toRecord.value? script.catalog.timeKey = some (.int script.transition) := by
  apply value?_toRecord_of_own
  · cases script.catalog <;> decide
  · unfold ownMembers
    cases script.catalog <;> rfl

/-- The other fields are written in their order. -/
theorem filter_toRecord :
    script.toRecord.filter (fun entry => isExtra script.catalog entry.1) =
      script.extra.filter fun entry => isExtra script.catalog entry.1 := by
  rw [toRecord_eq, Listing.filter_assign (by simp [isExtra, knownFields]), Listing.filter_putAll]
  simp [ownMembers, isExtra, knownFields]

end Writing

section Settled

/-- The script is one that a record can be read as. -/
structure Settled (script : ManagedScript) : Prop where
  version : script.version ≠ some ""
  deps : Dependencies.ofJson script.deps.toJson = script.deps
  rules : ∀ rules, script.rules = some rules → rules.Faithful
  extra : script.extra.filter (fun entry => isExtra script.catalog entry.1) = script.extra

/-- Rules that are no object are read as a rule set without conditions. -/
theorem faithful_empty :
    ({} : RuleSet).Faithful where
  distinct := List.nodup_nil
  readBack := fun _ hkey => absurd hkey List.not_mem_nil
  apart := fun _ hkey => absurd hkey List.not_mem_nil
  mode := rfl
  implicit := fun _ => rfl

theorem faithful_of_rulesOf
    {value : Json}
    {rules : RuleSet}
    (h : rulesOf value = some rules) :
    rules.Faithful := by
  unfold rulesOf at h
  split at h
  · cases h
  · cases h
  · cases h
    exact RuleSet.faithful_ofFields _
  · cases h
    exact faithful_empty

/-- A reading fails only on the time. -/
theorem ofFields_eq
    (handle : String)
    (catalog : ManagedCatalog)
    (record : Fields) :
    ofFields handle catalog record =
      (timeField catalog.timeKey record).map fun transition =>
        { handle
          catalog
          src := textField "src" record
          version := versionField "ver" record
          deps := .ofJson ((record.value? "deps").getD (.str ""))
          inFooter := flagField "in_footer" record
          strategy := .ofJson (field "strategy" record)
          rules := rulesOf (field "rules" record)
          transition
          extra := record.filter fun entry => isExtra catalog entry.1 } := by
  unfold ofFields
  cases timeField catalog.timeKey record <;> rfl

theorem settled_ofFields
    {handle : String}
    {catalog : ManagedCatalog}
    {record : Fields}
    {script : ManagedScript}
    (h : ofFields handle catalog record = .ok script) :
    script.Settled := by
  rw [ofFields_eq] at h
  obtain ⟨transition, -, rfl⟩ := ok_of_map h
  refine ⟨versionOf_ne_empty _, Dependencies.ofJson_toJson_ofJson _,
    fun rules hrules => faithful_of_rulesOf hrules, ?_⟩
  simp only [List.filter_filter, Bool.and_self]

/-- The rules are read back, or that there are none. -/
theorem rulesOf_storedRules?
    {script : ManagedScript}
    (settled : script.Settled) :
    rulesOf (script.storedRules?.getD .null) = script.rules := by
  unfold storedRules?
  cases hrules : script.rules with
  | none =>
      rfl
  | some rules =>
      exact congrArg some (RuleSet.ofFields_wire (settled.rules rules hrules))

/-- Reading undoes writing. -/
theorem ofFields_toRecord
    {script : ManagedScript}
    (settled : script.Settled) :
    ofFields script.handle script.catalog script.toRecord = .ok script := by
  have hfield {name : String} (hname : name ≠ "rules") {value : Json}
      (hown : script.ownMembers.value? name = some value) :
      field name script.toRecord = value := by
    rw [field, value?_toRecord_of_own script hname hown, Option.getD_some]
  have htime : timeField script.catalog.timeKey script.toRecord = .ok script.transition := by
    rw [timeField, field, value?_timeKey]
    rfl
  have hsrc : textField "src" script.toRecord = script.src :=
    textField_of_str (value?_toRecord_of_own script (by decide) rfl)
  have hversion : versionField "ver" script.toRecord = script.version := by
    rw [versionField, hfield (by decide) rfl, versionOf_versionJson settled.version]
  have hdeps : (script.toRecord.value? "deps").getD (.str "") = script.deps.toJson := by
    rw [value?_toRecord_of_own script (by decide) rfl, Option.getD_some]
  have hflag : flagField "in_footer" script.toRecord = script.inFooter := by
    rw [flagField, hfield (by decide) rfl, Json.truth]
  have hstrategy : LoadStrategy.ofJson (field "strategy" script.toRecord) = script.strategy := by
    rw [hfield (by decide) rfl, LoadStrategy.ofJson, LoadStrategy.ofText_word]
  have hrules : rulesOf (field "rules" script.toRecord) = script.rules := by
    rw [field, value?_toRecord, if_pos rfl, rulesOf_storedRules? settled]
  rw [ofFields_eq, htime, hsrc, hversion, hdeps, settled.deps, hflag, hstrategy, hrules,
    filter_toRecord, settled.extra]
  rfl

end Settled

end ManagedScript

section Lossless

open ManagedScript

variable {handle : String}
variable {catalog : ManagedCatalog}
variable {record : Fields}
variable {script : ManagedScript}

/-- Managed scripts are read and written without drift.  Let a record be read as a script of a
managed catalog.
* The record that is written for the script is read as this very script, so with the same
  dependencies and rules.
* It has the other fields of the record as they were and in their order, and has no more of them.
* It has rules exactly if the script has.
* If the rules of the record were an object, they are an object with the same members. -/
theorem managed_lossless
    (hread : ManagedScript.ofRecord handle (.obj record) catalog = .ok script) :
    ManagedScript.ofRecord handle (.obj script.toRecord) catalog = .ok script ∧
    (∀ name, name ∉ knownFields catalog →
      script.toRecord.value? name = record.value? name) ∧
    (script.toRecord.has "rules" = true ↔ script.rules ≠ none) ∧
    ∀ rules, record.value? "rules" = some (.obj rules) → Listing.Distinct rules →
      ∃ wire, script.toRecord.value? "rules" = some (.obj wire) ∧ wire.Perm rules := by
  have hfields : ofFields handle catalog record = .ok script := hread
  have hsettled := settled_ofFields hfields
  rw [ofFields_eq] at hfields
  obtain ⟨transition, -, heq⟩ := ok_of_map hfields
  have hhandle : script.handle = handle := heq ▸ rfl
  have hcatalog : script.catalog = catalog := heq ▸ rfl
  have hrules : script.rules = rulesOf (Record.field "rules" record) := heq ▸ rfl
  have hextra : script.extra = record.filter fun entry => isExtra catalog entry.1 := heq ▸ rfl
  have hstored : script.toRecord.value? "rules" = script.storedRules? := by
    rw [value?_toRecord, if_pos rfl]
  refine ⟨?_, fun name hname => ?_, ?_, fun rules hvalue hdistinct => ?_⟩
  · have hagain := ofFields_toRecord hsettled
    rw [hhandle, hcatalog] at hagain
    exact hagain
  · -- Both records hold the name exactly if it is among the fields that are kept.
    have hkept : isExtra catalog name = true := by simpa [isExtra] using hname
    have hfilter := script.filter_toRecord
    rw [hsettled.extra, hextra, hcatalog] at hfilter
    have hvalue := congrArg (Listing.value? name) hfilter
    rwa [Listing.value?_filter, Listing.value?_filter, if_pos hkept, if_pos hkept] at hvalue
  · rw [Listing.has, hstored, storedRules?]
    cases script.rules <;> simp
  · obtain ⟨read, hread, -, hperm, -⟩ := wire_lossless hdistinct
    cases hread
    refine ⟨_, ?_, hperm⟩
    rw [hstored, storedRules?, hrules, Record.field, hvalue]
    rfl

/-- A record without a source, with a number among its dependencies and a list for the strategy; its
time is a truth value, and the mode of its rules is no word. -/
def wornRecord : Fields :=
  [ ("ver", .arr [.int 1]), ("size", .float .nan), ("deps", .arr [.str " a ", .int 3, .str ""]),
    ("src", .int 0), ("strategy", .arr [.str "async"]), ("added_on", .bool true),
    ("rules", .obj [("__mode", .null), ("__neg:is_home", .arr [])]), ("dequeued", .str "x") ]

/-- The other fields come first; the time of the other catalog is one of them. -/
theorem managed_lossless_worn :
    ∃ script,
      ManagedScript.ofRecord "chat" (.obj wornRecord) .manual = .ok script ∧
      script.toRecord =
        [ ("size", .float .nan), ("dequeued", .str "x"), ("src", .str ""), ("ver", .str "[1]"),
          ("deps", .arr [.str "a"]), ("in_footer", .bool false), ("strategy", .str "none"),
          ("added_on", .int 0), ("rules", .obj [("__neg:is_home", .arr []), ("__mode", .null)]) ] ∧
      ManagedScript.ofRecord "chat" (.obj script.toRecord) .manual = .ok script := by
  obtain ⟨script, hread⟩ :
      ∃ script, ManagedScript.ofRecord "chat" (.obj wornRecord) .manual = .ok script :=
    ⟨_, rfl⟩
  obtain ⟨hagain, -, -, -⟩ := managed_lossless hread
  refine ⟨script, hread, ?_, hagain⟩
  cases hread
  decide +kernel

end Lossless

end PageScripts
