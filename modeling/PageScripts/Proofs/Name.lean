import PageScripts.Proofs.Registry

/-!
# Which names are taken

The two grammars of names are said here without the readers: a handle is made of ASCII letters and
digits, dashes and underscores; the name of a predicate begins with a lower-case ASCII letter or an
underscore, and goes on with these and ASCII digits.

* `HandleForm`, `PredicateForm`: the grammars.
* `chomp_eq_iff`: what is left of a text without the line feed at its end.
* `isHandle_iff`, `isPredicateName_iff`: a text is taken for a name if it follows the grammar, with or
  without one line feed behind it.
* `exists_add_iff`, `exists_register_iff`: a registry that is open and has not the name yet takes just
  the predicates of such names.

**Result.**  `names_up_to_line_feed`: all this in one place.  `line_feed_in_names` are two names with a
line feed, which the grammars do not have.
-/

namespace PageScripts

section Defs

/-- The text follows the grammar of handles. -/
structure HandleForm (cs : List Char) : Prop where
  nonempty : cs ≠ []
  chars : ∀ c ∈ cs, c.isAlphanum = true ∨ c = '_' ∨ c = '-'

/-- The text follows the grammar of predicate names. -/
structure PredicateForm (cs : List Char) : Prop where
  first : ∃ c rest, cs = c :: rest ∧ (c.isLower = true ∨ c = '_')
  chars : ∀ c ∈ cs, c.isLower = true ∨ c.isDigit = true ∨ c = '_'

/-- The text has a form, or what stands before one line feed at its end has it. -/
def UpToLineFeed
    (form : List Char → Prop)
    (s : String) : Prop :=
  form s.toList ∨ ∃ body, form body ∧ s.toList = body ++ ['\n']

end Defs

section Chars

theorem isAlnum_eq (c : Char) :
    Text.isAlnum c = c.isAlphanum := by
  have hupper : c.isUpper = (decide ('A' ≤ c) && decide (c ≤ 'Z')) := Bool.decide_and _ _
  change (c.isLower || (decide ('A' ≤ c) && decide (c ≤ 'Z')) || c.isDigit) =
    (c.isUpper || c.isLower || c.isDigit)
  rw [hupper, Bool.or_comm c.isLower]

theorem isHandleChar_iff (c : Char) :
    isHandleChar c = true ↔ c.isAlphanum = true ∨ c = '_' ∨ c = '-' := by
  simp only [isHandleChar, isAlnum_eq, Bool.or_eq_true, beq_iff_eq, or_assoc]

theorem startsPredicateName_iff (c : Char) :
    startsPredicateName c = true ↔ c.isLower = true ∨ c = '_' := by
  have hchar : startsPredicateName c = (c.isLower || c == '_') := rfl
  simp only [hchar, Bool.or_eq_true, beq_iff_eq]

theorem isPredicateChar_iff (c : Char) :
    isPredicateChar c = true ↔ c.isLower = true ∨ c.isDigit = true ∨ c = '_' := by
  have hchar : isPredicateChar c = (startsPredicateName c || c.isDigit) := rfl
  simp only [hchar, Bool.or_eq_true, startsPredicateName_iff]
  tauto

end Chars

section Forms

/-- A text without a line feed at its end is all that is left, or stands before the line feed. -/
theorem chomp_eq_iff (cs body : List Char) :
    chomp cs = body ↔ cs = body ++ ['\n'] ∨ (cs = body ∧ body.getLast? ≠ some '\n') := by
  unfold chomp
  split
  · next hlast =>
      have hcs := List.dropLast_append_getLast? '\n' hlast
      constructor
      · rintro rfl
        exact .inl hcs.symm
      · rintro (rfl | ⟨rfl, hnot⟩)
        · exact List.dropLast_concat
        · exact absurd hlast hnot
  · next hlast =>
      constructor
      · rintro rfl
        exact .inr ⟨rfl, hlast⟩
      · rintro (rfl | ⟨rfl, -⟩)
        · exact absurd List.getLast?_concat hlast
        · rfl

/-- What is left of a text has a form just if the text has it up to a line feed, if no text of that
form ends in one. -/
theorem chomp_iff_upToLineFeed
    {form : List Char → Prop}
    (hform : ∀ body, form body → body.getLast? ≠ some '\n')
    (s : String) :
    form (chomp s.toList) ↔ UpToLineFeed form s := by
  constructor
  · intro h
    rcases (chomp_eq_iff s.toList _).mp rfl with hfeed | ⟨hsame, -⟩
    · exact .inr ⟨_, h, hfeed⟩
    · exact .inl (hsame ▸ h)
  · rintro (h | ⟨body, h, hfeed⟩)
    · rwa [(chomp_eq_iff s.toList s.toList).mpr (.inr ⟨rfl, hform _ h⟩)]
    · rwa [(chomp_eq_iff s.toList body).mpr (.inl hfeed)]

/-- A character that a form does not allow is not the last of a text of that form. -/
theorem getLast?_ne_of_chars
    {allowed : Char → Prop}
    {body : List Char}
    (hchars : ∀ c ∈ body, allowed c)
    {c : Char}
    (hc : ¬ allowed c) :
    body.getLast? ≠ some c :=
  fun hlast => hc (hchars c (List.mem_of_getLast? hlast))

theorem HandleForm.no_line_feed
    {body : List Char}
    (h : HandleForm body) :
    body.getLast? ≠ some '\n' :=
  getLast?_ne_of_chars h.chars (by decide)

theorem PredicateForm.no_line_feed
    {body : List Char}
    (h : PredicateForm body) :
    body.getLast? ≠ some '\n' :=
  getLast?_ne_of_chars h.chars (by decide)

/-- The names of scripts. -/
theorem isHandle_iff (s : String) :
    isHandle s = true ↔ UpToLineFeed HandleForm s := by
  rw [← chomp_iff_upToLineFeed fun _ => HandleForm.no_line_feed]
  simp only [isHandle, Bool.and_eq_true, Bool.not_eq_true', List.isEmpty_eq_false_iff,
    List.all_eq_true, isHandleChar_iff]
  exact ⟨fun h => ⟨h.1, h.2⟩, fun h => ⟨h.nonempty, h.chars⟩⟩

/-- The names of predicates. -/
theorem isPredicateName_iff (name : String) :
    isPredicateName name = true ↔ UpToLineFeed PredicateForm name := by
  rw [← chomp_iff_upToLineFeed fun _ => PredicateForm.no_line_feed]
  unfold isPredicateName
  cases chomp name.toList with
  | nil =>
      refine ⟨fun h => (nomatch h), fun h => ?_⟩
      obtain ⟨c, rest, hcs, -⟩ := h.first
      cases hcs
  | cons c rest =>
      simp only [Bool.and_eq_true, List.all_eq_true, startsPredicateName_iff, isPredicateChar_iff]
      constructor
      · rintro ⟨hfirst, hrest⟩
        exact ⟨⟨c, rest, rfl, hfirst⟩, List.forall_mem_cons.mpr ⟨hfirst.imp_right .inr, hrest⟩⟩
      · intro h
        obtain ⟨first, others, hcs, hfirst⟩ := h.first
        cases hcs
        exact ⟨hfirst, (List.forall_mem_cons.mp h.chars).2⟩

end Forms

namespace Registry

variable {m : Type → Type}
variable {γ : Type}
variable {registry : Registry m γ}

theorem has_eq_false_iff (name : String) :
    registry.entries.has name = false ↔ name ∉ registry.names := by
  rw [Listing.has, Option.isSome_eq_false_iff, Option.isNone_iff_eq_none]
  exact Listing.value?_eq_none_iff name registry.entries

/-- An open registry takes a predicate of a new name just if the name is one. -/
theorem exists_add_iff
    (hopen : registry.frozen = false)
    {predicate : Predicate m γ}
    (hnew : predicate.name ∉ registry.names) :
    (∃ next, registry.add predicate = .ok next) ↔ isPredicateName predicate.name = true := by
  constructor
  · rintro ⟨next, hadd⟩
    exact (add_eq_ok_iff.mp hadd).2.1
  · intro hname
    exact ⟨_, add_eq_ok_iff.mpr ⟨hopen, hname, (has_eq_false_iff _).mpr hnew, rfl⟩⟩

/-- So it does if the predicate is made first, of a question and a known arity. -/
theorem exists_register_iff
    (hopen : registry.frozen = false)
    {name : String}
    (hnew : name ∉ registry.names)
    {word : Json}
    {arity : Arity}
    (harity : readArity word = .ok arity)
    (ask : γ → List Json → m Bool)
    (limit : Option Int)
    (meaning : Option String) :
    (∃ next, registry.register name word (.function ask) limit meaning = .ok next) ↔
      isPredicateName name = true := by
  have hadd : (∃ next, registry.add (offered name arity ask limit meaning) = .ok next) ↔
      isPredicateName name = true := exists_add_iff hopen hnew
  rw [register_eq_add registry name harity, ← hadd]
  cases registry.add (offered name arity ask limit meaning) with
  | error fault =>
      simp [Except.map]
  | ok next =>
      simp [Except.map]

end Registry

/-- What is taken for a name: just what follows the grammar, or would without one line feed at its end.
* So it is with the names of scripts.
* An open registry that has not the name yet takes the predicates of such names only, whether they are
  made before or with the registration. -/
theorem names_up_to_line_feed
    {m : Type → Type}
    {γ : Type} :
    (∀ s, isHandle s = true ↔ UpToLineFeed HandleForm s) ∧
    (∀ (registry : Registry m γ) (predicate : Predicate m γ),
      registry.frozen = false →
      predicate.name ∉ registry.names →
      ((∃ next, registry.add predicate = .ok next) ↔
        UpToLineFeed PredicateForm predicate.name)) ∧
    (∀ (registry : Registry m γ) name word arity ask limit meaning,
      registry.frozen = false →
      name ∉ registry.names →
      Registry.readArity word = .ok arity →
      ((∃ next, registry.register name word (.function ask) limit meaning = .ok next) ↔
        UpToLineFeed PredicateForm name)) := by
  refine ⟨isHandle_iff, ?_, ?_⟩
  · intro registry predicate hopen hnew
    rw [Registry.exists_add_iff hopen hnew, isPredicateName_iff]
  · intro registry name word arity ask limit meaning hopen hnew harity
    rw [Registry.exists_register_iff hopen hnew harity, isPredicateName_iff]

/-- The vocabulary of page rules, before it takes no more predicates. -/
def openVocabulary : Registry Id Request :=
  { Vocabulary.registry with frozen := false }

/-- The open vocabulary takes a new name that follows the grammar, and none that begins with a capital
letter. -/
theorem names_up_to_line_feed_vocabulary :
    openVocabulary.frozen = false ∧
    "is_2nd_visit" ∉ openVocabulary.names ∧
    "Is_home" ∉ openVocabulary.names ∧
    Registry.readArity (.str "one") = .ok .unary ∧
    (∃ next, openVocabulary.register "is_2nd_visit" (.str "one")
      (.function fun request _ => request.loggedIn) none none = .ok next) ∧
    ¬ ∃ next, openVocabulary.add (Vocabulary.plain "Is_home" "" Request.isAdmin) = .ok next := by
  obtain ⟨-, hadd, hregister⟩ := @names_up_to_line_feed Id Request
  have hnew : "is_2nd_visit" ∉ openVocabulary.names := by
    decide +kernel
  have hother : "Is_home" ∉ openVocabulary.names := by
    decide +kernel
  refine ⟨rfl, hnew, hother, rfl, ?_, ?_⟩
  · refine (hregister openVocabulary _ _ .unary _ _ _ rfl hnew rfl).mpr (.inl ⟨⟨'i', _, rfl, ?_⟩, ?_⟩)
    · decide
    · exact fun c hc => (isPredicateChar_iff c).mp (List.all_eq_true.mp (by decide) c hc)
  · rw [hadd openVocabulary (Vocabulary.plain "Is_home" "" Request.isAdmin) rfl hother]
    rintro (h | ⟨body, h, hbody⟩)
    · exact absurd (h.chars 'I' (by decide)) (by decide)
    · have hchar : 'I' ∈ body := by
        have hmem : 'I' ∈ body ++ ['\n'] := hbody ▸ (by decide : 'I' ∈ "Is_home".toList)
        simpa using hmem
      exact absurd (h.chars 'I' hchar) (by decide)

/-- A line feed stands in no name that follows a grammar, but both readers let it pass at the end. -/
theorem line_feed_in_names :
    isHandle "app\n" = true ∧
    ¬ HandleForm "app\n".toList ∧
    (∃ next, ({} : Registry Id Request).add (Vocabulary.plain "is_x\n" "" Request.isAdmin) =
      .ok next) ∧
    ¬ PredicateForm "is_x\n".toList := by
  refine ⟨by decide, fun h => h.no_line_feed (by decide), ⟨_, rfl⟩, fun h => h.no_line_feed (by decide)⟩

end PageScripts
