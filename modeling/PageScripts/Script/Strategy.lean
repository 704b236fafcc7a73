import PageScripts.Json.Value

/-!
# Loading strategies

A browser loads a script in place, asynchronously, or after the page.
-/

namespace PageScripts

/-- How a browser loads a script. -/
inductive LoadStrategy
  | plain
  | async
  | defer
  deriving DecidableEq, Repr

namespace LoadStrategy

/-- The strategies. -/
def all : List LoadStrategy :=
  [plain, async, defer]

/-- The word for a strategy. -/
def word : LoadStrategy → String
  | plain => "none"
  | async => "async"
  | defer => "defer"

/-- The strategy of a word. -/
def ofWord? (word : String) : Option LoadStrategy :=
  all.find? fun strategy => strategy.word == word

/-- The strategy of a stored text; an unknown one is plain. -/
def ofText (word : String) : LoadStrategy :=
  (ofWord? word).getD plain

/-- The strategy of a stored value; what is no known word is plain. -/
def ofJson : Json → LoadStrategy
  | .str word => ofText word
  | _ => plain

@[simp]
theorem ofText_word (strategy : LoadStrategy) :
    ofText strategy.word = strategy := by
  cases strategy <;> decide

end LoadStrategy
end PageScripts
