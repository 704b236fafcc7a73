import PageScripts.Proofs.Listing
import PageScripts.Proofs.Result
import PageScripts.Vocabulary

/-!
# Registries that registrations build

`Registry.Built` are the registries that come from the empty one by registering predicates and
freezing.  Registration keeps `Registry.Orderly`: names are bound once, follow the grammar of
predicate names, and are the names of their predicates.

* `orderly_of_built`: a built registry is orderly.
* `resolve?_empty`: so the empty text never names a predicate.
* `built_vocabulary`: the vocabulary of page rules is a built registry.
-/

namespace PageScripts
namespace Registry

variable {m : Type → Type}
variable {γ : Type}

/-- The registries that registrations build. -/
inductive Built : Registry m γ → Prop
  | empty :
      Built {}
  | add
      {registry next : Registry m γ}
      {predicate : Predicate m γ}
      (before : Built registry)
      (added : registry.add predicate = .ok next) :
      Built next
  | register
      {registry next : Registry m γ}
      {name : String}
      {arity : Json}
      {body : Body m γ}
      {limit : Option Int}
      {meaning : Option String}
      {predicate : Predicate m γ}
      (before : Built registry)
      (registered : registry.register name arity body limit meaning = .ok (next, predicate)) :
      Built next
  | freeze
      {registry : Registry m γ}
      (before : Built registry) :
      Built registry.freeze

/-- Names are bound once, each to a predicate of that name, and follow the grammar. -/
structure Orderly (registry : Registry m γ) : Prop where
  distinct : registry.entries.Distinct
  named :
    ∀ name predicate,
      registry.resolve? name = some predicate →
      isPredicateName name = true ∧ predicate.name = name

/-- What a successful registration did. -/
theorem add_eq_ok_iff
    {registry next : Registry m γ}
    {predicate : Predicate m γ} :
    registry.add predicate = .ok next ↔
      registry.frozen = false ∧
      isPredicateName predicate.name = true ∧
      registry.entries.has predicate.name = false ∧
      next = { registry with entries := registry.entries.put predicate.name predicate } := by
  unfold add
  cases registry.frozen with
  | true =>
      simp
  | false =>
      cases isPredicateName predicate.name with
      | false =>
          simp
      | true =>
          cases registry.entries.has predicate.name with
          | true =>
              simp
          | false =>
              simp [eq_comm]

theorem add_of_register
    {registry next : Registry m γ}
    {name : String}
    {arity : Json}
    {body : Body m γ}
    {limit : Option Int}
    {meaning : Option String}
    {predicate : Predicate m γ}
    (h : registry.register name arity body limit meaning = .ok (next, predicate)) :
    registry.add predicate = .ok next := by
  unfold register at h
  cases body with
  | value kind =>
      cases h
  | function ask =>
      obtain ⟨arity, -, h⟩ := ok_of_bind h
      obtain ⟨added, hadd, h⟩ := ok_of_bind h
      cases h
      exact hadd

/-- The predicate that a registration offers. -/
def offered
    (name : String)
    (arity : Arity)
    (ask : γ → List Json → m Bool)
    (limit : Option Int)
    (meaning : Option String) :
    Predicate m γ :=
  { name, arity, ask, maxArgs := limit.getD arity.defaultLimit, meaning }

/-- To register a function with a known arity is to add the predicate that it makes. -/
theorem register_eq_add
    (registry : Registry m γ)
    (name : String)
    {word : Json}
    {arity : Arity}
    (harity : readArity word = .ok arity)
    (ask : γ → List Json → m Bool)
    (limit : Option Int)
    (meaning : Option String) :
    registry.register name word (.function ask) limit meaning =
      (registry.add (offered name arity ask limit meaning)).map
        fun next => (next, offered name arity ask limit meaning) := by
  unfold register
  rw [harity]
  change (registry.add (offered name arity ask limit meaning) >>= fun next => pure (next, _)) = _
  cases registry.add (offered name arity ask limit meaning) <;> rfl

theorem orderly_add
    {registry next : Registry m γ}
    {predicate : Predicate m γ}
    (orderly : registry.Orderly)
    (added : registry.add predicate = .ok next) :
    next.Orderly := by
  obtain ⟨-, hname, -, rfl⟩ := add_eq_ok_iff.mp added
  refine ⟨Listing.distinct_put orderly.distinct _ _, ?_⟩
  intro name other hother
  rw [resolve?, Listing.value?_put] at hother
  by_cases heq : predicate.name = name
  · rw [if_pos heq] at hother
    cases hother
    exact ⟨heq ▸ hname, heq⟩
  · rw [if_neg heq] at hother
    exact orderly.named name other hother

/-- A built registry is orderly. -/
theorem orderly_of_built
    {registry : Registry m γ}
    (built : registry.Built) :
    registry.Orderly := by
  induction built with
  | empty =>
      refine ⟨List.nodup_nil, ?_⟩
      intro name predicate h
      cases h
  | add before added ih =>
      exact orderly_add ih added
  | register before registered ih =>
      exact orderly_add ih (add_of_register registered)
  | freeze before ih =>
      exact ⟨ih.distinct, ih.named⟩

/-- The empty text names no predicate. -/
theorem resolve?_empty
    {registry : Registry m γ}
    (orderly : registry.Orderly) :
    registry.resolve? "" = none := by
  cases h : registry.resolve? "" with
  | none =>
      rfl
  | some predicate =>
      obtain ⟨hname, -⟩ := orderly.named "" predicate h
      exact absurd hname (by decide)

/-- Predicates that are added one after another build a registry. -/
theorem built_of_addAll
    {registry next : Registry m γ}
    {predicates : List (Predicate m γ)}
    (built : registry.Built)
    (h : predicates.foldlM add registry = .ok next) :
    next.Built := by
  induction predicates generalizing registry with
  | nil =>
      cases h
      exact built
  | cons predicate rest ih =>
      rw [List.foldlM_cons] at h
      obtain ⟨added, hadd, hrest⟩ := ok_of_bind h
      exact ih (built.add hadd) hrest

theorem built_of_ofPredicates
    {registry : Registry m γ}
    {predicates : List (Predicate m γ)}
    (h : ofPredicates predicates = .ok registry) :
    registry.Built :=
  built_of_addAll .empty h

/-- The vocabulary is built by adding its words, and then frozen. -/
theorem built_vocabulary :
    Vocabulary.registry.Built := by
  have hwords :
      (ofPredicates Vocabulary.words).map freeze = .ok Vocabulary.registry := by
    rfl
  obtain ⟨registry, hregistry, hfreeze⟩ := ok_of_map hwords
  rw [← hfreeze]
  exact (built_of_ofPredicates hregistry).freeze

end Registry
end PageScripts
