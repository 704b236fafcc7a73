import PageScripts.Proofs.Action
import PageScripts.Proofs.Name

/-!
# What calls on a registry keep

A registry is filled in place by calls that may be refused at several points: what is offered is no
function, its arity is unknown, the registry is frozen, the name is none or is taken.  Here the calls
are done one after another, refused ones among them, on one registry.

* `Attempt` are the three calls; `Attempt.work` is what a call does in place, check by check, and what
  is written stays written if a fault comes later.
* `run_work`: no fault comes later.  A call comes to what `register`, `add` and `freeze` come to, and
  where these refuse it leaves the registry as it was.
* `Attempt.Fits`: what is asked of a call; `refused_iff`: just the calls that do not fit are refused.
* `entries_run`: the entries after a run are those from before it, and behind them what the calls have
  registered, in turn.
* `run_of_frozen`: a frozen registry stays as it is.

**Result.**  `bindings_kept`: what holds of a registry, however it is made and filled.
-/

namespace PageScripts
namespace Registry

variable {m : Type → Type}
variable {γ : Type}

section Defs

/-- Work on a registry in place: what is done is not undone by a fault. -/
abbrev Work (m : Type → Type) (γ α : Type) :=
  ExceptT Fault (StateM (Registry m γ)) α

/-- Adds a predicate in place. -/
def Work.add (predicate : Predicate m γ) : Work m γ Unit := do
  let registry ← get
  if registry.frozen then
    throw (.registryFrozen predicate.name)
  else if !isPredicateName predicate.name then
    throw (.predicateName predicate.name)
  else if registry.entries.has predicate.name then
    throw (.predicateTaken predicate.name)
  else
    set { registry with entries := registry.entries.put predicate.name predicate }

/-- Makes a predicate and adds it in place. -/
def Work.register
    (name : String)
    (word : Json)
    (body : Body m γ)
    (limit : Option Int)
    (meaning : Option String) :
    Work m γ (Predicate m γ) := do
  match body with
  | .value kind => throw (.notFunction name kind)
  | .function ask =>
      let arity ← MonadExcept.ofExcept (readArity word)
      Work.add (offered name arity ask limit meaning)
      return offered name arity ask limit meaning

/-- A call on a registry, which may be refused. -/
inductive Attempt (m : Type → Type) (γ : Type)
  | register
      (name : String)
      (word : Json)
      (body : Body m γ)
      (limit : Option Int)
      (meaning : Option String)
  | add (predicate : Predicate m γ)
  | freeze

/-- What a call does in place; it comes to the predicate that it has registered, if any. -/
def Attempt.work : Attempt m γ → Work m γ (Option (Predicate m γ))
  | .register name word body limit meaning => do
      return some (← Work.register name word body limit meaning)
  | .add predicate => do
      Work.add predicate
      return some predicate
  | .freeze => do
      modify Registry.freeze
      return none

/-- What the registry has for a call: the registry that it makes, and what it registers. -/
def perform (registry : Registry m γ) :
    Attempt m γ → Except Fault (Registry m γ × Option (Predicate m γ))
  | .register name word body limit meaning =>
      (registry.register name word body limit meaning).map fun (next, predicate) =>
        (next, some predicate)
  | .add predicate => (registry.add predicate).map fun next => (next, some predicate)
  | .freeze => .ok (registry.freeze, none)

/-- The registry after a call. -/
def step
    (registry : Registry m γ)
    (call : Attempt m γ) :
    Registry m γ :=
  (call.work.run registry).2

/-- The registry after calls, one after another. -/
def run
    (registry : Registry m γ)
    (calls : List (Attempt m γ)) :
    Registry m γ :=
  calls.foldl step registry

/-- What a call registers. -/
def gained
    (registry : Registry m γ)
    (call : Attempt m γ) :
    List (Predicate m γ) :=
  match (call.work.run registry).1 with
  | .ok (some predicate) => [predicate]
  | _ => []

/-- What calls register, one after another. -/
def registered
    (registry : Registry m γ) :
    List (Attempt m γ) → List (Predicate m γ)
  | [] => []
  | call :: rest => registry.gained call ++ (registry.step call).registered rest

/-- The predicate that a call offers to a registry. -/
inductive Attempt.Offers : Attempt m γ → Predicate m γ → Prop
  | add (predicate : Predicate m γ) :
      Attempt.Offers (.add predicate) predicate
  | register
      (name : String)
      {word : Json}
      {arity : Arity}
      (harity : readArity word = .ok arity)
      (ask : γ → List Json → m Bool)
      (limit : Option Int)
      (meaning : Option String) :
      Attempt.Offers (.register name word (.function ask) limit meaning)
        (offered name arity ask limit meaning)

/-- The registry takes a predicate: it is open, and the name is a name and is new. -/
structure Takes
    (registry : Registry m γ)
    (predicate : Predicate m γ) :
    Prop where
  isOpen : registry.frozen = false
  named : isPredicateName predicate.name = true
  new : predicate.name ∉ registry.names

/-- What is asked of a call: a registry may always be frozen; else there is a predicate to be added, and
the registry takes it. -/
def Attempt.Fits
    (call : Attempt m γ)
    (registry : Registry m γ) :
    Prop :=
  call = .freeze ∨ ∃ predicate, call.Offers predicate ∧ registry.Takes predicate

/-- Predicates under their names. -/
def entriesOf (predicates : List (Predicate m γ)) : Listing String (Predicate m γ) :=
  predicates.map fun predicate => (predicate.name, predicate)

end Defs

section Steps

variable {registry : Registry m γ}

/-- In place, a predicate is added as the registry would add it, or nothing is done. -/
theorem run_add
    (predicate : Predicate m γ)
    (registry : Registry m γ) :
    (Work.add predicate).run registry =
      match registry.add predicate with
      | .ok next => (.ok (), next)
      | .error fault => (.error fault, registry) := by
  unfold Work.add add
  rw [Action.run_bind]
  change (if registry.frozen = true then _ else _ : Work m γ Unit).run registry = _
  cases registry.frozen with
  | true =>
      rfl
  | false =>
      cases isPredicateName predicate.name with
      | false =>
          rfl
      | true =>
          cases registry.entries.has predicate.name with
          | true =>
              rfl
          | false =>
              rfl

theorem run_register
    (name : String)
    (word : Json)
    (body : Body m γ)
    (limit : Option Int)
    (meaning : Option String)
    (registry : Registry m γ) :
    (Work.register name word body limit meaning).run registry =
      match registry.register name word body limit meaning with
      | .ok (next, predicate) => (.ok predicate, next)
      | .error fault => (.error fault, registry) := by
  cases body with
  | value kind =>
      rfl
  | function ask =>
      unfold Work.register
      rw [Action.run_bind]
      cases harity : readArity word with
      | error fault =>
          unfold register
          rw [harity]
          rfl
      | ok arity =>
          rw [register_eq_add registry name harity]
          change ExceptT.run (Work.add (offered name arity ask limit meaning) >>= _) registry = _
          rw [Action.run_bind, run_add]
          cases registry.add (offered name arity ask limit meaning) with
          | error fault =>
              rfl
          | ok next =>
              rfl

/-- In place, a call comes to what the registry has for it, and where the registry refuses, nothing is
done. -/
theorem run_work
    (call : Attempt m γ)
    (registry : Registry m γ) :
    call.work.run registry =
      match registry.perform call with
      | .ok (next, predicate) => (.ok predicate, next)
      | .error fault => (.error fault, registry) := by
  cases call with
  | register name word body limit meaning =>
      simp only [Attempt.work, perform, Action.run_bind, run_register]
      cases registry.register name word body limit meaning with
      | error fault =>
          rfl
      | ok result =>
          rfl
  | add predicate =>
      simp only [Attempt.work, perform, Action.run_bind, run_add]
      cases registry.add predicate with
      | error fault =>
          rfl
      | ok next =>
          rfl
  | freeze =>
      rfl

/-- A predicate that a call offers is added. -/
theorem perform_of_offers
    {call : Attempt m γ}
    {predicate : Predicate m γ}
    (hoffers : call.Offers predicate)
    (registry : Registry m γ) :
    registry.perform call = (registry.add predicate).map fun next => (next, some predicate) := by
  cases hoffers with
  | add predicate =>
      rfl
  | @register name word arity harity ask limit meaning =>
      simp only [perform, register_eq_add registry name harity]
      cases registry.add (offered name arity ask limit meaning) with
      | error fault =>
          rfl
      | ok next =>
          rfl

theorem add_of_takes
    {predicate : Predicate m γ}
    (htakes : registry.Takes predicate) :
    registry.add predicate =
      .ok { registry with entries := registry.entries ++ [(predicate.name, predicate)] } := by
  rw [← Listing.put_of_not_mem predicate htakes.new]
  exact add_eq_ok_iff.mpr ⟨htakes.isOpen, htakes.named, (has_eq_false_iff _).mpr htakes.new, rfl⟩

theorem takes_of_add
    {predicate : Predicate m γ}
    {next : Registry m γ}
    (hadd : registry.add predicate = .ok next) :
    registry.Takes predicate := by
  obtain ⟨hopen, hname, hnew, -⟩ := add_eq_ok_iff.mp hadd
  exact ⟨hopen, hname, (has_eq_false_iff _).mp hnew⟩

/-- A call that does not fit is refused. -/
theorem perform_of_not_fits
    {call : Attempt m γ}
    (h : ¬ call.Fits registry) :
    ∃ fault, registry.perform call = .error fault := by
  have hadd {predicate : Predicate m γ} (hoffers : call.Offers predicate) :
      ∃ fault, registry.perform call = .error fault := by
    rw [perform_of_offers hoffers]
    cases hadd : registry.add predicate with
    | error fault =>
        exact ⟨fault, rfl⟩
    | ok next =>
        exact absurd (.inr ⟨predicate, hoffers, takes_of_add hadd⟩) h
  cases call with
  | register name word body limit meaning =>
      cases body with
      | value kind =>
          exact ⟨_, rfl⟩
      | function ask =>
          cases harity : readArity word with
          | error fault =>
              exact ⟨fault, by rw [perform, register, harity]; rfl⟩
          | ok arity =>
              exact hadd (.register name harity ask limit meaning)
  | add predicate =>
      exact hadd (.add predicate)
  | freeze =>
      exact absurd (.inl rfl) h

/-- What a call leaves and registers, if the registry has a predicate for it. -/
theorem step_of_perform
    {call : Attempt m γ}
    {next : Registry m γ}
    {predicate : Predicate m γ}
    (h : registry.perform call = .ok (next, some predicate)) :
    registry.step call = next ∧ registry.gained call = [predicate] := by
  unfold step gained
  rw [run_work, h]
  exact ⟨rfl, rfl⟩

/-- A call that does not fit does nothing. -/
theorem step_of_not_fits
    {call : Attempt m γ}
    (h : ¬ call.Fits registry) :
    registry.step call = registry ∧ registry.gained call = [] := by
  obtain ⟨fault, hfault⟩ := perform_of_not_fits h
  unfold step gained
  rw [run_work, hfault]
  exact ⟨rfl, rfl⟩

/-- A predicate that fits is put behind the others. -/
theorem step_of_takes
    {call : Attempt m γ}
    {predicate : Predicate m γ}
    (hoffers : call.Offers predicate)
    (htakes : registry.Takes predicate) :
    registry.step call =
        { registry with entries := registry.entries ++ [(predicate.name, predicate)] } ∧
      registry.gained call = [predicate] := by
  apply step_of_perform
  rw [perform_of_offers hoffers, add_of_takes htakes]
  rfl

/-- All that a call can do: nothing, if it is refused; freeze; or put a predicate that the registry
takes behind the others. -/
theorem step_cases
    (registry : Registry m γ)
    (call : Attempt m γ) :
    (registry.step call = registry ∧ registry.gained call = []) ∨
    (registry.step call = registry.freeze ∧ registry.gained call = []) ∨
    ∃ predicate,
      registry.Takes predicate ∧
      registry.step call =
        { registry with entries := registry.entries ++ [(predicate.name, predicate)] } ∧
      registry.gained call = [predicate] := by
  by_cases hfits : call.Fits registry
  · rcases hfits with rfl | ⟨predicate, hoffers, htakes⟩
    · exact .inr (.inl ⟨rfl, rfl⟩)
    · exact .inr (.inr ⟨predicate, htakes, step_of_takes hoffers htakes⟩)
  · exact .inl (step_of_not_fits hfits)

/-- Just the calls that do not fit are refused. -/
theorem refused_iff (call : Attempt m γ) :
    (∃ fault, (call.work.run registry).1 = .error fault) ↔ ¬ call.Fits registry := by
  constructor
  · rintro ⟨fault, hfault⟩ (rfl | ⟨predicate, hoffers, htakes⟩)
    · cases hfault
    · rw [run_work, perform_of_offers hoffers, add_of_takes htakes] at hfault
      cases hfault
  · intro h
    obtain ⟨fault, hfault⟩ := perform_of_not_fits h
    exact ⟨fault, by rw [run_work, hfault]⟩

theorem entries_step (call : Attempt m γ) :
    (registry.step call).entries = registry.entries ++ entriesOf (registry.gained call) := by
  rcases step_cases registry call with ⟨hstep, hgained⟩ | ⟨hstep, hgained⟩ | ⟨_, -, hstep, hgained⟩
  · rw [hstep, hgained]
    exact (List.append_nil _).symm
  · rw [hstep, hgained]
    exact (List.append_nil _).symm
  · rw [hstep, hgained]
    rfl

theorem built_step
    (built : registry.Built)
    (call : Attempt m γ) :
    (registry.step call).Built := by
  rcases step_cases registry call with ⟨hstep, -⟩ | ⟨hstep, -⟩ | ⟨predicate, htakes, hstep, -⟩
  · rwa [hstep]
  · rw [hstep]
    exact built.freeze
  · rw [hstep]
    exact built.add (add_of_takes htakes)

theorem step_of_frozen
    (hfrozen : registry.frozen = true)
    (call : Attempt m γ) :
    registry.step call = registry := by
  rcases step_cases registry call with ⟨hstep, -⟩ | ⟨hstep, -⟩ | ⟨_, htakes, -⟩
  · exact hstep
  · rw [hstep, freeze, ← hfrozen]
  · rw [htakes.isOpen] at hfrozen
    cases hfrozen

end Steps

section Runs

variable {registry : Registry m γ}

theorem run_append
    (registry : Registry m γ)
    (calls more : List (Attempt m γ)) :
    registry.run (calls ++ more) = (registry.run calls).run more :=
  List.foldl_append

/-- What calls register stands behind what was there. -/
theorem entries_run
    (registry : Registry m γ)
    (calls : List (Attempt m γ)) :
    (registry.run calls).entries = registry.entries ++ entriesOf (registry.registered calls) := by
  induction calls generalizing registry with
  | nil =>
      exact (List.append_nil _).symm
  | cons call rest ih =>
      rw [run, List.foldl_cons, ← run, ih, entries_step, List.append_assoc, registered, entriesOf,
        entriesOf, entriesOf, List.map_append]

theorem built_run
    (built : registry.Built)
    (calls : List (Attempt m γ)) :
    (registry.run calls).Built := by
  induction calls generalizing registry with
  | nil =>
      exact built
  | cons call rest ih =>
      exact ih (built_step built call)

theorem run_of_frozen
    (hfrozen : registry.frozen = true)
    (calls : List (Attempt m γ)) :
    registry.run calls = registry := by
  induction calls with
  | nil =>
      rfl
  | cons call rest ih =>
      rw [run, List.foldl_cons, step_of_frozen hfrozen]
      exact ih

/-- What a name is bound to stays bound to it. -/
theorem resolve?_run
    {name : String}
    {predicate : Predicate m γ}
    (known : registry.resolve? name = some predicate)
    (calls : List (Attempt m γ)) :
    (registry.run calls).resolve? name = some predicate := by
  rw [resolve?, entries_run, Listing.value?_append, ← resolve?, known, Option.some_or]

/-- To make a registry of predicates is to add them by calls. -/
theorem run_of_addAll
    {next : Registry m γ}
    {predicates : List (Predicate m γ)}
    (h : predicates.foldlM add registry = .ok next) :
    registry.run (predicates.map .add) = next ∧
    registry.registered (predicates.map .add) = predicates := by
  induction predicates generalizing registry with
  | nil =>
      cases h
      exact ⟨rfl, rfl⟩
  | cons predicate rest ih =>
      rw [List.foldlM_cons] at h
      obtain ⟨added, hadd, hrest⟩ := ok_of_bind h
      obtain ⟨hstep, hgained⟩ : registry.step (.add predicate) = added ∧
          registry.gained (.add predicate) = [predicate] := by
        apply step_of_perform
        rw [perform, hadd]
        rfl
      obtain ⟨hrun, hregistered⟩ := ih hrest
      refine ⟨?_, ?_⟩
      · rw [List.map_cons, run, List.foldl_cons, hstep]
        exact hrun
      · rw [List.map_cons, registered, hgained, hstep, hregistered]
        rfl

end Runs

section Views

theorem value?_entriesOf
    (name : String)
    (predicates : List (Predicate m γ)) :
    (entriesOf predicates).value? name =
      predicates.find? fun predicate => predicate.name = name := by
  induction predicates with
  | nil =>
      rfl
  | cons predicate rest ih =>
      rw [List.find?_cons]
      by_cases h : predicate.name = name
      · simp [entriesOf, Listing.value?, h]
      · simpa [entriesOf, Listing.value?, h] using ih

theorem keys_entriesOf (predicates : List (Predicate m γ)) :
    (entriesOf predicates).keys = predicates.map Predicate.name := by
  unfold entriesOf Listing.keys
  rw [List.map_map]
  rfl

theorem values_entriesOf (predicates : List (Predicate m γ)) :
    (entriesOf predicates).values = predicates := by
  unfold entriesOf Listing.values
  rw [List.map_map]
  exact List.map_id predicates

end Views

/-- What holds of a registry that is made of predicates, or of none, and filled by any calls, some of
them refused.
* Its names are bound once.  The names, the predicates and their number are those that were registered,
  in the order of the calls, and to look up a name is to look for it among these.
* What a name was bound to before some of the calls it is bound to after them; and if the registry was
  frozen before them, it is the same after them.
* Just the calls that do not fit are refused, and then the registry stays as it is. -/
theorem bindings_kept
    {initial : List (Predicate m γ)}
    {start : Registry m γ}
    (made : ofPredicates initial = .ok start)
    (calls : List (Attempt m γ)) :
    let registry := start.run calls
    let bound := initial ++ start.registered calls
    registry.names.Nodup ∧
    registry.names = bound.map Predicate.name ∧
    registry.predicates = bound ∧
    registry.entries.length = bound.length ∧
    (∀ name, registry.resolve? name = bound.find? fun predicate => predicate.name = name) ∧
    (∀ name, registry.entries.has name = true ↔ name ∈ bound.map Predicate.name) ∧
    (∀ before later,
      calls = before ++ later →
      (∀ name predicate,
        (start.run before).resolve? name = some predicate →
        registry.resolve? name = some predicate) ∧
      ((start.run before).frozen = true → registry = start.run before)) ∧
    (∀ call : Attempt m γ,
      (∃ fault, (call.work.run registry).1 = .error fault) ↔ ¬ call.Fits registry) ∧
    (∀ (call : Attempt m γ) fault,
      (call.work.run registry).1 = .error fault →
      (call.work.run registry).2 = registry) := by
  intro registry bound
  obtain ⟨hstart, hinitial⟩ :
      run {} (initial.map .add) = start ∧ registered {} (initial.map .add) = initial :=
    run_of_addAll made
  have hentries : registry.entries = entriesOf bound := by
    rw [show registry = start.run calls from rfl, entries_run, ← hstart, entries_run, hinitial,
      hstart, List.nil_append]
    exact List.map_append.symm
  have hnames : registry.names = bound.map Predicate.name := by
    rw [names, hentries, keys_entriesOf]
  have hbuilt : registry.Built := built_run (built_of_ofPredicates made) calls
  refine ⟨(orderly_of_built hbuilt).distinct, hnames, ?_, ?_, ?_, ?_, ?_, refused_iff, ?_⟩
  · rw [predicates, hentries, values_entriesOf]
  · rw [hentries, entriesOf, List.length_map]
  · intro name
    rw [resolve?, hentries, value?_entriesOf]
  · intro name
    rw [← hnames, ← Bool.not_eq_false, has_eq_false_iff, not_not]
  · rintro before later hcalls
    have hregistry : registry = (start.run before).run later := by
      rw [← run_append, ← hcalls]
    rw [hregistry]
    exact ⟨fun name predicate known => resolve?_run known later,
      fun hfrozen => run_of_frozen hfrozen later⟩
  · intro call fault hfault
    have hrefused := (refused_iff call).mp ⟨fault, hfault⟩
    exact (step_of_not_fits hrefused).1

/-- A predicate to begin with. -/
def firstWord : Vocabulary.Word :=
  Vocabulary.plain "is_admin" "" Request.isAdmin

/-- Calls that register one predicate more, are refused in each of the possible ways, and freeze. -/
def mixedCalls : List (Attempt Id Request) :=
  [ .register "is_mobile" (.str "two") (.function fun request _ => request.isMobile) none none,
    .register "is_mobile" (.str "none") (.value .str) none none,
    .register "is_mobile" (.str "none") (.function fun request _ => request.isMobile) none none,
    .add { firstWord with ask := fun _ _ => true },
    .add { firstWord with name := "Is-Admin" },
    .freeze,
    .add { firstWord with name := "is_late" } ]

/-- Only what was registered in time is there, and as it was registered. -/
theorem bindings_kept_mixed :
    ofPredicates [firstWord] = .ok { entries := [("is_admin", firstWord)] } ∧
    (run { entries := [("is_admin", firstWord)] } mixedCalls).names = ["is_admin", "is_mobile"] ∧
    (run { entries := [("is_admin", firstWord)] } mixedCalls).resolve? "is_admin" =
      some firstWord := by
  have made : ofPredicates [firstWord] = .ok { entries := [("is_admin", firstWord)] } := rfl
  obtain ⟨-, hnames, -, -, -, -, hkept, -, -⟩ := bindings_kept made mixedCalls
  have hregistered :
      (registered { entries := [("is_admin", firstWord)] } mixedCalls).map Predicate.name =
        ["is_mobile"] := by
    decide +kernel
  refine ⟨made, ?_, (hkept [] mixedCalls rfl).1 "is_admin" firstWord rfl⟩
  rw [hnames, List.map_append, hregistered]
  rfl

end Registry
end PageScripts
