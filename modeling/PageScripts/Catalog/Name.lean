/-!
# The three catalogs

Page scripts are kept in three catalogs: those that have been discovered in the render queue,
those that are removed from it under conditions, and those that an operator has added by hand.
Each catalog is stored as one option and has a short label for people.
-/

namespace PageScripts

/-- A catalog of page scripts. -/
inductive CatalogName
  | discovered
  | removed
  | manual
  deriving DecidableEq, Repr

namespace CatalogName

/-- The catalogs, in the order in which they are searched. -/
def all : List CatalogName :=
  [discovered, removed, manual]

theorem mem_all (name : CatalogName) :
    name ∈ all := by
  cases name <;> simp [all]

/-- The name of the option that holds the catalog. -/
def option : CatalogName → String
  | discovered => "psa_found_scripts"
  | removed => "psa_dequeued_scripts"
  | manual => "psa_manual_scripts"

/-- The label of the catalog. -/
def label : CatalogName → String
  | discovered => "found"
  | removed => "dequeued"
  | manual => "manual"

/-- The catalog with a label. -/
def ofLabel? (label : String) : Option CatalogName :=
  all.find? fun name => name.label == label

/-- The catalog that an option holds. -/
def ofOption? (option : String) : Option CatalogName :=
  all.find? fun name => name.option == option

@[simp]
theorem ofLabel?_label (name : CatalogName) :
    ofLabel? name.label = some name := by
  cases name <;> decide

@[simp]
theorem ofOption?_option (name : CatalogName) :
    ofOption? name.option = some name := by
  cases name <;> decide

theorem option_injective
    (a b : CatalogName)
    (h : a.option = b.option) :
    a = b := by
  have ha := ofOption?_option a
  rw [h, ofOption?_option] at ha
  exact (Option.some.inj ha).symm

end CatalogName

/-- A catalog whose scripts are managed by rules. -/
inductive ManagedCatalog
  | removed
  | manual
  deriving DecidableEq, Repr

namespace ManagedCatalog

/-- The name of the catalog. -/
def name : ManagedCatalog → CatalogName
  | removed => .removed
  | manual => .manual

/-- The field of a record with the time at which the script came into the catalog. -/
def timeKey : ManagedCatalog → String
  | removed => "dequeued"
  | manual => "added_on"

end ManagedCatalog

/-- The catalog as one whose scripts are managed by rules, if it is one. -/
def CatalogName.managed? : CatalogName → Option ManagedCatalog
  | .discovered => none
  | .removed => some .removed
  | .manual => some .manual

@[simp]
theorem ManagedCatalog.managed?_name (catalog : ManagedCatalog) :
    catalog.name.managed? = some catalog := by
  cases catalog <;> rfl

end PageScripts
