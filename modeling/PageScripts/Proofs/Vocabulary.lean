import PageScripts.Proofs.Listing
import PageScripts.Rule.Verdict
import PageScripts.Vocabulary

/-!
# A question with fewer arguments holds for more

Five predicates of the vocabulary take arguments, and each may leave them out: by true or null in place
of arguments, by a shorter list, or by the empty text in the place of one.  What is left out asks
nothing.

* `AsksLess`: arguments ask less than others.
* `ask_of_asksLess`: if the answer to a question is yes, so it is to one that asks less.
* `holds`: what comes out of a condition on the vocabulary; `holds_of_asksLess`: the same of conditions,
  the other way round if they are negated.
* `holds_congr`: arguments that ask the same come out alike.

**Result.**  `fewer_arguments_hold`: which arguments ask less than which, of each of the five.
-/

namespace PageScripts
namespace Vocabulary

section Defs

/-- Arguments ask less than others: each is the same as there, or is left out. -/
def AsksLess (fewer more : List Json) : Prop :=
  ∀ index, argument fewer index = argument more index ∨ (argument fewer index).isUnset = true

/-- The answer to a question of the vocabulary. -/
def answer
    (word : Word)
    (request : Request)
    (arguments : List Json) :
    Bool :=
  word.ask request arguments

/-- What comes out of a condition on the vocabulary, for a request. -/
def holds
    (request : Request)
    (key : ConditionKey)
    (argument : Json) :
    Bool :=
  match registry.resolve? key.predicate with
  | none => false
  | some word => word.condition key.negated argument request

end Defs

section Questions

variable {request : Request}
variable {fewer more : List Json}

/-- Without arguments nothing is asked. -/
theorem asksLess_nil (more : List Json) :
    AsksLess [] more :=
  fun _ => .inr rfl

/-- The second of two arguments may be left out. -/
theorem asksLess_first (a b : Json) :
    AsksLess [a] [a, b] := by
  rintro (_ | _ | index)
  · exact .inl rfl
  · exact .inr rfl
  · exact .inl rfl

/-- The empty text in the place of the first of two arguments leaves it out. -/
theorem asksLess_second (a b : Json) :
    AsksLess [.str "", b] [a, b] := by
  rintro (_ | _ | index)
  · exact .inr rfl
  · exact .inl rfl
  · exact .inl rfl

/-- The empty text in the last place asks nothing either. -/
theorem asksLess_padded (a : Json) :
    AsksLess [a, .str ""] [a] := by
  rintro (_ | _ | index)
  · exact .inl rfl
  · exact .inl rfl
  · exact .inl rfl

theorem matchesValue_iff (actual wanted : Json) :
    matchesValue actual wanted = true ↔
      actual ≠ .null ∧ (wanted.isUnset = true ∨ actual = .str wanted.display) := by
  unfold matchesValue
  by_cases hnone : actual = .null
  · simp [hnone]
  · by_cases hunset : wanted.isUnset = true
    · simp [hnone, hunset]
    · simp [hnone, hunset]

theorem isTax_iff (request : Request) (arguments : List Json) :
    isTax request arguments = true ↔
      request.archiveTaxonomy ≠ .null ∧
      ((argument arguments 0).isUnset = true ∨
        request.archiveTaxonomy = .str (argument arguments 0).display) ∧
      ((argument arguments 1).isUnset = true ∨
        isArchiveTerm request (argument arguments 1) = true) := by
  unfold isTax
  by_cases hnone : request.archiveTaxonomy = .null
  · simp [hnone]
  · by_cases hunset : (argument arguments 0).isUnset = true
    · simp [hnone, hunset]
    · by_cases hsame : request.archiveTaxonomy = .str (argument arguments 0).display
      · simp [hunset, hsame]
      · simp [hnone, hunset, hsame]

theorem hasTerm_iff (request : Request) (arguments : List Json) :
    hasTerm request arguments = true ↔
      request.postType ≠ .null ∧
      ∃ term ∈ assignedTerms request (argument arguments 1),
        (argument arguments 0).isUnset = true ∨ term = (argument arguments 0).display := by
  unfold hasTerm
  by_cases hnone : request.postType = .null
  · simp [hnone]
  · by_cases hunset : (argument arguments 0).isUnset = true
    · simp [hnone, hunset, -List.isEmpty_eq_false_iff,
        List.isEmpty_eq_false_iff_exists_mem]
    · simp [hnone, hunset]

/-- The terms in one taxonomy are among the terms in all. -/
theorem assignedTerms_subset
    {fewer more : Json}
    (hless : fewer = more ∨ fewer.isUnset = true) :
    assignedTerms request more ⊆ assignedTerms request fewer := by
  rcases hless with rfl | hunset
  · exact List.Subset.refl _
  · intro term hterm
    unfold assignedTerms at hterm ⊢
    rw [if_pos hunset]
    split at hterm
    · exact hterm
    · cases hterms : request.terms.value? more.display with
      | none =>
          rw [hterms] at hterm
          cases hterm
      | some terms =>
          rw [hterms] at hterm
          refine List.mem_flatten.mpr ⟨terms, ?_, hterm⟩
          exact List.mem_map_of_mem (Listing.mem_of_value? hterms)

theorem matchesValue_of_less
    {actual fewer more : Json}
    (hless : fewer = more ∨ fewer.isUnset = true)
    (h : matchesValue actual more = true) :
    matchesValue actual fewer = true := by
  rcases hless with rfl | hunset
  · exact h
  · exact (matchesValue_iff actual fewer).mpr ⟨((matchesValue_iff actual more).mp h).1, .inl hunset⟩

theorem isTax_of_asksLess
    (hless : AsksLess fewer more)
    (h : isTax request more = true) :
    isTax request fewer = true := by
  obtain ⟨hsome, htaxonomy, hterm⟩ := (isTax_iff request more).mp h
  refine (isTax_iff request fewer).mpr ⟨hsome, ?_, ?_⟩
  · rcases hless 0 with hsame | hunset
    · rwa [hsame]
    · exact .inl hunset
  · rcases hless 1 with hsame | hunset
    · rwa [hsame]
    · exact .inl hunset

theorem hasTerm_of_asksLess
    (hless : AsksLess fewer more)
    (h : hasTerm request more = true) :
    hasTerm request fewer = true := by
  obtain ⟨hsome, term, hassigned, hterm⟩ := (hasTerm_iff request more).mp h
  refine (hasTerm_iff request fewer).mpr
    ⟨hsome, term, assignedTerms_subset (hless 1) hassigned, ?_⟩
  rcases hless 0 with hsame | hunset
  · rwa [hsame]
  · exact .inl hunset

/-- If the answer to a question is yes, so it is to one that asks less. -/
theorem ask_of_asksLess
    {word : Word}
    (hword : word ∈ withArguments)
    (hless : AsksLess fewer more)
    (h : answer word request more = true) :
    answer word request fewer = true := by
  simp only [withArguments, List.mem_cons, List.not_mem_nil, or_false] at hword
  rcases hword with rfl | rfl | rfl | rfl | rfl
  · exact matchesValue_of_less (hless 0) h
  · exact matchesValue_of_less (hless 0) h
  · exact matchesValue_of_less (hless 0) h
  · exact isTax_of_asksLess hless h
  · exact hasTerm_of_asksLess hless h

end Questions

section Arguments

variable {word : Word}

theorem positional?_bare
    {bare : Json}
    (hbare : bare ∈ [.bool true, .null])
    (word : Word) :
    word.positional? bare = some [] := by
  simp only [List.mem_cons, List.not_mem_nil, or_false] at hbare
  rcases hbare with rfl | rfl <;> rfl

theorem positional?_scalar
    (harity : word.arity ≠ .nullary)
    {a : Json}
    (hscalar : a.isScalar = true) :
    word.positional? a = some [a] := by
  unfold Predicate.positional? Arity.positional?
  cases a with
  | null =>
      cases hscalar
  | bool b =>
      cases hscalar
  | arr items =>
      cases hscalar
  | obj fields =>
      cases hscalar
  | int n =>
      exact if_pos ⟨hscalar, harity⟩
  | float x =>
      exact if_pos ⟨hscalar, harity⟩
  | str s =>
      exact if_pos ⟨hscalar, harity⟩

theorem positional?_arr_iff
    (harity : word.arity = .variadic)
    (hlimit : word.maxArgs = 2)
    {items arguments : List Json} :
    word.positional? (.arr items) = some arguments ↔
      arguments = items ∧ items.length ≤ 2 ∧ ∀ item ∈ items, item.isScalar = true := by
  unfold Predicate.positional? Arity.positional?
  rw [harity, hlimit]
  simp only [true_and, List.all_eq_true, Option.ite_none_right_eq_some, Option.some.injEq]
  rw [and_comm, eq_comm, show (2 : Int) = ((2 : Nat) : Int) from rfl, Int.ofNat_le]

end Arguments

section Conditions

variable {request : Request}
variable {word : Word}

/-- The predicates with arguments are found under their names. -/
theorem resolve?_of_mem
    (hword : word ∈ withArguments) :
    registry.resolve? word.name = some word := by
  simp only [withArguments, List.mem_cons, List.not_mem_nil, or_false] at hword
  rcases hword with rfl | rfl | rfl | rfl | rfl <;> rfl

theorem holds_eq
    (hword : word ∈ withArguments)
    (request : Request)
    (negated : Bool)
    (argument : Json) :
    holds request ⟨word.name, negated⟩ argument =
      match word.positional? argument with
      | none => false
      | some arguments => answer word request arguments != negated := by
  unfold holds
  simp only [resolve?_of_mem hword, Predicate.condition]
  cases word.positional? argument with
  | none =>
      rfl
  | some arguments =>
      rfl

/-- Only with arguments that its predicate takes a condition holds. -/
theorem exists_positional?_of_holds
    (hword : word ∈ withArguments)
    {negated : Bool}
    {argument : Json}
    (h : holds request ⟨word.name, negated⟩ argument = true) :
    ∃ arguments, word.positional? argument = some arguments := by
  rw [holds_eq hword] at h
  cases hpositional : word.positional? argument with
  | none =>
      rw [hpositional] at h
      cases h
  | some arguments =>
      exact ⟨arguments, rfl⟩

variable {fewer more : Json}
variable {few many : List Json}
variable (hfew : word.positional? fewer = some few)
variable (hmany : word.positional? more = some many)

include hfew hmany

/-- A condition that asks less holds if one that asks more does; if they are negated it is the other way
round. -/
theorem holds_of_asksLess
    (hword : word ∈ withArguments)
    (hless : AsksLess few many) :
    (holds request ⟨word.name, false⟩ more = true →
      holds request ⟨word.name, false⟩ fewer = true) ∧
    (holds request ⟨word.name, true⟩ fewer = true →
      holds request ⟨word.name, true⟩ more = true) := by
  have hask : answer word request many = true → answer word request few = true :=
    ask_of_asksLess hword hless
  simp only [holds_eq hword, hfew, hmany, Bool.bne_false, Bool.bne_true, Bool.not_eq_true']
  refine ⟨hask, fun hno => ?_⟩
  rw [← Bool.not_eq_true] at hno ⊢
  exact mt hask hno

/-- Arguments that ask the same come out alike. -/
theorem holds_congr
    (hword : word ∈ withArguments)
    (hless : AsksLess few many)
    (hmore : AsksLess many few)
    (request : Request)
    (negated : Bool) :
    holds request ⟨word.name, negated⟩ fewer = holds request ⟨word.name, negated⟩ more := by
  have hask : answer word request few = answer word request many := by
    rw [Bool.eq_iff_iff]
    exact ⟨ask_of_asksLess hword hmore, ask_of_asksLess hword hless⟩
  simp only [holds_eq hword, hfew, hmany, hask]

end Conditions

section Names

/-- The predicates that take one argument at most. -/
theorem exists_unary
    {name : String}
    (hname : name ∈ ["is_singular", "is_page_template", "is_wc_endpoint_url"]) :
    ∃ word ∈ withArguments, word.name = name ∧ word.arity = .unary := by
  simp only [List.mem_cons, List.not_mem_nil, or_false] at hname
  rcases hname with rfl | rfl | rfl
  · exact ⟨_, .head _, rfl, rfl⟩
  · exact ⟨_, .tail _ (.head _), rfl, rfl⟩
  · exact ⟨_, .tail _ (.tail _ (.head _)), rfl, rfl⟩

/-- The predicates that take two arguments at most. -/
theorem exists_variadic
    {name : String}
    (hname : name ∈ ["is_tax", "has_term"]) :
    ∃ word ∈ withArguments, word.name = name ∧ word.arity = .variadic ∧ word.maxArgs = 2 := by
  simp only [List.mem_cons, List.not_mem_nil, or_false] at hname
  rcases hname with rfl | rfl
  · exact ⟨_, .tail _ (.tail _ (.tail _ (.head _))), rfl, rfl, rfl⟩
  · exact ⟨_, .tail _ (.tail _ (.tail _ (.tail _ (.head _)))), rfl, rfl, rfl⟩

variable {word : Word}
variable (harity : word.arity = .variadic)
variable (hlimit : word.maxArgs = 2)

include harity hlimit

/-- Two arguments are taken if they are scalars. -/
theorem positional?_pair_iff (a b : Json) (arguments : List Json) :
    word.positional? (.arr [a, b]) = some arguments ↔
      arguments = [a, b] ∧ a.isScalar = true ∧ b.isScalar = true := by
  rw [positional?_arr_iff harity hlimit]
  simp

/-- What asks less than two arguments: either one of them, or none. -/
theorem exists_fewer
    {a b fewer : Json}
    (ha : a.isScalar = true)
    (hb : b.isScalar = true)
    (hfewer : fewer ∈ [.arr [a], .arr [.str "", b], .arr [], .bool true, .null]) :
    ∃ few, word.positional? fewer = some few ∧ AsksLess few [a, b] := by
  simp only [List.mem_cons, List.not_mem_nil, or_false] at hfewer
  rcases hfewer with rfl | rfl | rfl | hbare
  · refine ⟨[a], ?_, asksLess_first a b⟩
    exact (positional?_arr_iff harity hlimit).mpr ⟨rfl, by simp, by simp [ha]⟩
  · refine ⟨[.str "", b], ?_, asksLess_second a b⟩
    exact (positional?_pair_iff harity hlimit _ _ _).mpr ⟨rfl, rfl, hb⟩
  · refine ⟨[], ?_, asksLess_nil _⟩
    exact (positional?_arr_iff harity hlimit).mpr ⟨rfl, by simp, by simp⟩
  · exact ⟨[], positional?_bare (by simpa using hbare) word, asksLess_nil _⟩

end Names

/-- Which arguments ask less than which.  A condition that is not negated holds with fewer if it holds
with more; if it is negated it is the other way round, so far as the arguments are taken at all.
* Any argument asks more than true or null, where one argument is taken.
* Where two are taken, both ask more than either of them, with the empty text in place of the first if
  that is left out, and than none.
* There an argument is the same as a list of it, and as a list with the empty text after it; and the
  empty list is the same as true or null. -/
theorem fewer_arguments_hold (request : Request) :
    (∀ name ∈ ["is_singular", "is_page_template", "is_wc_endpoint_url"],
      ∀ argument, ∀ bare ∈ [Json.bool true, .null],
        (holds request ⟨name, false⟩ argument = true → holds request ⟨name, false⟩ bare = true) ∧
        (argument.isScalar = true →
          holds request ⟨name, true⟩ bare = true → holds request ⟨name, true⟩ argument = true)) ∧
    (∀ name ∈ ["is_tax", "has_term"],
      (∀ a b, ∀ fewer ∈ [Json.arr [a], .arr [.str "", b], .arr [], .bool true, .null],
        (holds request ⟨name, false⟩ (.arr [a, b]) = true →
          holds request ⟨name, false⟩ fewer = true) ∧
        (a.isScalar = true → b.isScalar = true →
          holds request ⟨name, true⟩ fewer = true →
          holds request ⟨name, true⟩ (.arr [a, b]) = true)) ∧
      (∀ negated a, a.isScalar = true →
        holds request ⟨name, negated⟩ (.arr [a]) = holds request ⟨name, negated⟩ a ∧
        holds request ⟨name, negated⟩ (.arr [a, .str ""]) = holds request ⟨name, negated⟩ a) ∧
      (∀ negated, ∀ bare ∈ [Json.bool true, .null],
        holds request ⟨name, negated⟩ (.arr []) = holds request ⟨name, negated⟩ bare)) := by
  constructor
  · intro name hname argument bare hbare
    obtain ⟨word, hword, rfl, harity⟩ := exists_unary hname
    have hnone := positional?_bare hbare word
    constructor
    · intro h
      obtain ⟨arguments, harguments⟩ := exists_positional?_of_holds hword h
      exact (holds_of_asksLess hnone harguments hword (asksLess_nil _)).1 h
    · intro hscalar
      have hone := positional?_scalar (by rw [harity]; decide) hscalar
      exact (holds_of_asksLess hnone hone hword (asksLess_nil _)).2
  · intro name hname
    obtain ⟨word, hword, rfl, harity, hlimit⟩ := exists_variadic hname
    have hpair (a b : Json) := positional?_pair_iff harity hlimit a b
    have hone {a : Json} (ha : a.isScalar = true) : word.positional? a = some [a] :=
      positional?_scalar (by rw [harity]; decide) ha
    refine ⟨fun a b fewer hfewer => ⟨fun h => ?_, fun ha hb => ?_⟩, fun negated a ha => ⟨?_, ?_⟩, ?_⟩
    · obtain ⟨arguments, harguments⟩ := exists_positional?_of_holds hword h
      obtain ⟨rfl, ha, hb⟩ := (hpair a b arguments).mp harguments
      obtain ⟨few, hfew, hless⟩ := exists_fewer harity hlimit ha hb hfewer
      exact (holds_of_asksLess hfew harguments hword hless).1 h
    · obtain ⟨few, hfew, hless⟩ := exists_fewer harity hlimit ha hb hfewer
      exact (holds_of_asksLess hfew ((hpair a b _).mpr ⟨rfl, ha, hb⟩) hword hless).2
    · have hlist : word.positional? (.arr [a]) = some [a] :=
        (positional?_arr_iff harity hlimit).mpr ⟨rfl, by simp, by simp [ha]⟩
      exact holds_congr hlist (hone ha) hword (fun _ => .inl rfl) (fun _ => .inl rfl) request negated
    · have hlist := (hpair a (.str "") _).mpr ⟨rfl, ha, rfl⟩
      exact holds_congr hlist (hone ha) hword (asksLess_padded a) (asksLess_first a _) request negated
    · intro negated bare hbare
      have hlist : word.positional? (.arr []) = some [] :=
        (positional?_arr_iff harity hlimit).mpr ⟨rfl, by simp, by simp⟩
      exact holds_congr hlist (positional?_bare hbare word) hword (asksLess_nil _) (asksLess_nil _)
        request negated

/-- A post among the news, on the archive of a category. -/
def newsRequest : Request :=
  { postType := .str "post",
    terms := [("post_tag", ["7"]), ("category", ["news", "7"])],
    archiveTaxonomy := .str "category",
    archiveTerm := .str "news",
    archiveTermId := some 7 }

/-- One condition for each of the ways in which less is asked. -/
theorem fewer_arguments_hold_news :
    holds newsRequest ⟨"is_singular", false⟩ (.str "post") = true ∧
    holds newsRequest ⟨"is_singular", false⟩ .null = true ∧
    holds newsRequest ⟨"is_page_template", true⟩ (.bool true) = true ∧
    holds newsRequest ⟨"is_page_template", true⟩ (.str "full.php") = true ∧
    holds newsRequest ⟨"has_term", false⟩ (.arr [.int 7, .str "category"]) = true ∧
    holds newsRequest ⟨"has_term", false⟩ (.arr [.int 7]) = true ∧
    holds newsRequest ⟨"is_tax", true⟩ (.arr [.str "", .str "sport"]) = true ∧
    holds newsRequest ⟨"is_tax", true⟩ (.arr [.str "category", .str "sport"]) = true ∧
    holds newsRequest ⟨"is_tax", true⟩ (.arr [.str "post_tag", .str ""]) =
      holds newsRequest ⟨"is_tax", true⟩ (.str "post_tag") := by
  obtain ⟨hone, htwo⟩ := fewer_arguments_hold newsRequest
  obtain ⟨htax, hsame, -⟩ := htwo "is_tax" (by decide)
  obtain ⟨hterm, -, -⟩ := htwo "has_term" (by decide)
  have hsingular : holds newsRequest ⟨"is_singular", false⟩ (.str "post") = true := by
    decide +kernel
  have htemplate : holds newsRequest ⟨"is_page_template", true⟩ (.bool true) = true := by
    decide +kernel
  have hboth : holds newsRequest ⟨"has_term", false⟩ (.arr [.int 7, .str "category"]) = true := by
    decide +kernel
  have hother : holds newsRequest ⟨"is_tax", true⟩ (.arr [.str "", .str "sport"]) = true := by
    decide +kernel
  refine ⟨hsingular, ?_, htemplate, ?_, hboth, ?_, hother, ?_, ?_⟩
  · exact (hone "is_singular" (by decide) _ .null (by simp)).1 hsingular
  · exact (hone "is_page_template" (by decide) _ (.bool true) (by simp)).2 rfl htemplate
  · exact (hterm _ _ (.arr [.int 7]) (by simp)).1 hboth
  · exact (htax (.str "category") _ _ (by simp)).2 rfl rfl hother
  · exact (hsame true (.str "post_tag") rfl).2

end Vocabulary
end PageScripts
