import Mathlib.Data.List.Chain
import PageScripts.Proofs.Text.Blank
import PageScripts.Text.Slug

/-!
# The form of slugs

A slug is made in six steps, and a later one may undo what an earlier one did: a text that is cut off
may end in a dash.  Here the form of slugs is said without these steps, and then looked at from within:
which characters there are, and where dashes stand.

* `SlugForm`: words of lower-case letters and digits with single dashes between them.
* `Evened`: the same, character by character (`SlugForm.evened`, `Evened.slugForm`).
* `Steady`: what the steps leave of a character that may stand in a slug.
* `singleDashes_dashes`: two dashes never stand side by side; cutting off and trimming keep this.
* `slugForm_slugOf`: every slug has the form; `slugOf_of_slugForm`: a text of this form stays as it is.

**Result.**  `slug_eq_self_iff`: the slugs are just the texts of this form that are not too long.
-/

namespace PageScripts
namespace Text

section Defs

/-- The text is a word of a slug. -/
structure SlugWord (cs : List Char) : Prop where
  nonempty : cs ≠ []
  chars : ∀ c ∈ cs, c.isLower = true ∨ c.isDigit = true

/-- The text is one word, or some words with a single dash between each and the next. -/
inductive SlugForm : List Char → Prop
  | word
      {word : List Char}
      (hword : SlugWord word) :
      SlugForm word
  | dash
      {word rest : List Char}
      (hword : SlugWord word)
      (hrest : SlugForm rest) :
      SlugForm (word ++ '-' :: rest)

/-- The character may stand in a slug. -/
def SlugChar (c : Char) : Prop :=
  c.isLower = true ∨ c.isDigit = true ∨ c = '-'

/-- No two dashes stand side by side. -/
def SingleDashes (cs : List Char) : Prop :=
  cs.IsChain fun c d => c = '-' → d ≠ '-'

/-- The text is made of the characters of slugs, with single dashes and none at an end. -/
structure Evened (cs : List Char) : Prop where
  nonempty : cs ≠ []
  chars : ∀ c ∈ cs, SlugChar c
  single : SingleDashes cs
  first : cs.head? ≠ some '-'
  last : cs.getLast? ≠ some '-'

end Defs

section Form

variable {cs : List Char}

/-- One more character before a slug. -/
theorem SlugForm.cons
    {c : Char}
    (hc : c.isLower = true ∨ c.isDigit = true)
    (h : SlugForm cs) :
    SlugForm (c :: cs) := by
  cases h with
  | word hword =>
      exact .word ⟨List.cons_ne_nil c _, List.forall_mem_cons.mpr ⟨hc, hword.chars⟩⟩
  | dash hword hrest =>
      exact .dash ⟨List.cons_ne_nil c _, List.forall_mem_cons.mpr ⟨hc, hword.chars⟩⟩ hrest

theorem SlugWord.evened (h : SlugWord cs) :
    Evened cs := by
  have hdash : '-' ∉ cs := fun hmem => absurd (h.chars '-' hmem) (by decide)
  refine ⟨h.nonempty, fun c hc => (h.chars c hc).imp_right .inl, ?_, ?_, ?_⟩
  · refine List.Pairwise.isChain (List.pairwise_of_forall_mem_list ?_)
    rintro c hc d hd rfl
    exact absurd hc hdash
  · exact fun hfirst => hdash (List.mem_of_head? hfirst)
  · exact fun hlast => hdash (List.mem_of_getLast? hlast)

theorem SlugForm.evened (h : SlugForm cs) :
    Evened cs := by
  induction h with
  | word hword =>
      exact hword.evened
  | @dash word rest hword hrest ih =>
      obtain ⟨c, others, rfl⟩ := List.exists_cons_of_ne_nil hword.nonempty
      obtain ⟨d, more, rfl⟩ := List.exists_cons_of_ne_nil ih.nonempty
      have hd : d ≠ '-' := fun heq => ih.first (congrArg some heq)
      refine ⟨by simp, ?_, ?_, hword.evened.first, ?_⟩
      · intro e he
        rcases List.mem_append.mp he with he | he
        · exact hword.evened.chars e he
        · rcases List.mem_cons.mp he with rfl | he
          · exact .inr (.inr rfl)
          · exact ih.chars e he
      · refine List.isChain_append.mpr ⟨hword.evened.single, ?_, ?_⟩
        · exact List.isChain_cons_cons.mpr ⟨fun _ => hd, ih.single⟩
        · rintro e he _ - rfl
          exact absurd he hword.evened.last
      · rw [List.getLast?_append, List.getLast?_cons_cons]
        simpa using ih.last

/-- The first character belongs to a word. -/
theorem Evened.word_of_cons
    {c : Char}
    (h : Evened (c :: cs)) :
    SlugWord [c] := by
  refine ⟨List.cons_ne_nil c [], ?_⟩
  rw [List.forall_mem_singleton]
  rcases h.chars c List.mem_cons_self with hlower | hdigit | hdash
  · exact .inl hlower
  · exact .inr hdigit
  · exact absurd (congrArg some hdash) h.first

theorem Evened.tail
    {c d : Char}
    (h : Evened (c :: d :: cs))
    (hd : d ≠ '-') :
    Evened (d :: cs) where
  nonempty := List.cons_ne_nil d cs
  chars := (List.forall_mem_cons.mp h.chars).2
  single := (List.isChain_cons_cons.mp h.single).2
  first := fun hfirst => hd (Option.some.inj hfirst)
  last := by
    rw [← List.getLast?_cons_cons]
    exact h.last

theorem Evened.after_dash
    {c : Char}
    (h : Evened (c :: '-' :: cs)) :
    Evened cs := by
  cases cs with
  | nil =>
      exact absurd rfl h.last
  | cons d rest =>
      obtain ⟨hdash, hrest⟩ := List.isChain_cons_cons.mp (List.isChain_cons_cons.mp h.single).2
      refine ⟨List.cons_ne_nil d rest, ?_, hrest, ?_, ?_⟩
      · exact fun e he => h.chars e (List.mem_cons_of_mem _ (List.mem_cons_of_mem _ he))
      · exact fun hfirst => hdash rfl (Option.some.inj hfirst)
      · rw [← List.getLast?_cons_cons, ← List.getLast?_cons_cons]
        exact h.last

theorem Evened.slugForm (h : Evened cs) :
    SlugForm cs := by
  induction cs using List.twoStepInduction with
  | nil =>
      exact absurd rfl h.nonempty
  | singleton c =>
      exact .word h.word_of_cons
  | cons_cons c d rest hrest hnext =>
      by_cases hd : d = '-'
      · subst hd
        exact .dash h.word_of_cons (hrest h.after_dash)
      · have hc := List.forall_mem_singleton.mp h.word_of_cons.chars
        exact (hnext d (h.tail hd)).cons hc

end Form

section Chars

/-- A character that a slug can use, in lower case, is one of a slug or becomes a dash. -/
theorem slugChar_or_isJoint_toLower
    {c : Char}
    (hascii : c.toNat < 128)
    (h : (isAlnum c || isJoint c) = true) :
    SlugChar c.toLower ∨ isJoint c.toLower = true := by
  have hall := forall_ascii
    (fun c => !(isAlnum c || isJoint c) ||
      (c.toLower.isLower || c.toLower.isDigit || c.toLower == '-' || isJoint c.toLower))
    (by decide +kernel) hascii
  simpa [h, SlugChar, or_assoc] using hall

theorem lt_of_slugChar
    {c : Char}
    (h : SlugChar c) :
    c.toNat < 128 := by
  rcases h with hlower | hdigit | rfl
  · have hhigh : c.val ≤ 'z'.val := of_decide_eq_true (Bool.and_eq_true_iff.mp hlower).2
    exact Nat.lt_of_le_of_lt (UInt32.le_iff_toNat_le.mp hhigh) (by decide)
  · have hhigh : c.val ≤ '9'.val := of_decide_eq_true (Bool.and_eq_true_iff.mp hdigit).2
    exact Nat.lt_of_le_of_lt (UInt32.le_iff_toNat_le.mp hhigh) (by decide)
  · decide

/-- What the steps ask of a character of a slug: it is kept, it is not trimmed, it is in lower case, and
it becomes a dash only if it is one. -/
structure Steady (c : Char) : Prop where
  kept : (isAlnum c || isJoint c) = true
  solid : isBlank c = false
  lower : c.toLower = c
  joint : isJoint c = true → c = '-'

theorem steady_of_slugChar
    {c : Char}
    (h : SlugChar c) :
    Steady c := by
  have hall := forall_ascii
    (fun c => !(c.isLower || c.isDigit || c == '-') ||
      ((isAlnum c || isJoint c) && !isBlank c && c.toLower == c && (!isJoint c || c == '-')))
    (by decide +kernel) (lt_of_slugChar h)
  have htest : (c.isLower || c.isDigit || c == '-') = true := by
    simpa [SlugChar, or_assoc] using h
  rw [htest] at hall
  simp only [Bool.not_true, Bool.false_or, Bool.and_eq_true, beq_iff_eq, Bool.not_eq_true'] at hall
  obtain ⟨⟨⟨hkept, hsolid⟩, hlower⟩, hjoint⟩ := hall
  exact ⟨hkept, hsolid, hlower, fun hj => by simpa [hj] using hjoint⟩

end Chars

section Dashes

/-- A dash stands for joints; the other characters are those of the text. -/
theorem mem_dashes
    {cs : List Char}
    {c : Char}
    (h : c ∈ dashes cs) :
    c = '-' ∨ c ∈ cs ∧ isJoint c = false := by
  fun_induction dashes cs with
  | case1 =>
      cases h
  | case2 d hd =>
      exact .inl (List.mem_singleton.mp h)
  | case3 d hd =>
      obtain rfl := List.mem_singleton.mp h
      exact .inr ⟨h, Bool.not_eq_true _ ▸ hd⟩
  | case4 d e rest hd he ih =>
      exact (ih h).imp_right (And.imp_left (List.mem_cons_of_mem d))
  | case5 d e rest hd he ih =>
      rcases List.mem_cons.mp h with hc | hc
      · exact .inl hc
      · exact (ih hc).imp_right (And.imp_left (List.mem_cons_of_mem d))
  | case6 d e rest hd ih =>
      rcases List.mem_cons.mp h with rfl | hc
      · exact .inr ⟨List.mem_cons_self, Bool.not_eq_true _ ▸ hd⟩
      · exact (ih hc).imp_right (And.imp_left (List.mem_cons_of_mem d))

/-- A character that is no joint stays at the front. -/
theorem head?_dashes
    {c : Char}
    (hc : isJoint c = false)
    (rest : List Char) :
    (dashes (c :: rest)).head? = some c := by
  cases rest with
  | nil =>
      simp [dashes, hc]
  | cons d rest =>
      simp [dashes, hc]

theorem singleDashes_dashes (cs : List Char) :
    SingleDashes (dashes cs) := by
  fun_induction dashes cs with
  | case1 =>
      exact List.isChain_nil
  | case2 c hc =>
      exact List.isChain_singleton _
  | case3 c hc =>
      exact List.isChain_singleton _
  | case4 c d rest hc hd ih =>
      exact ih
  | case5 c d rest hc hd ih =>
      -- The dash is put before a character that is no joint.
      refine List.isChain_cons.mpr ⟨?_, ih⟩
      rw [head?_dashes (Bool.not_eq_true _ ▸ hd)]
      rintro e he - rfl
      obtain rfl := Option.some.inj he
      exact hd (by decide)
  | case6 c d rest hc ih =>
      refine List.isChain_cons.mpr ⟨?_, ih⟩
      rintro e - rfl
      exact absurd (by decide) hc

/-- Single dashes are left as they are if nothing else becomes a dash. -/
theorem dashes_of_singleDashes
    {cs : List Char}
    (hjoints : ∀ c ∈ cs, isJoint c = true → c = '-')
    (hsingle : SingleDashes cs) :
    dashes cs = cs := by
  fun_induction dashes cs with
  | case1 =>
      rfl
  | case2 c hc =>
      rw [hjoints c List.mem_cons_self hc]
  | case3 c hc =>
      rfl
  | case4 c d rest hc hd ih =>
      have hboth := (List.isChain_cons_cons.mp hsingle).1 (hjoints c List.mem_cons_self hc)
      exact absurd (hjoints d (List.mem_cons_of_mem c List.mem_cons_self) hd) hboth
  | case5 c d rest hc hd ih =>
      obtain ⟨hfirst, hothers⟩ := List.forall_mem_cons.mp hjoints
      rw [ih hothers (List.isChain_cons_cons.mp hsingle).2, hfirst hc]
  | case6 c d rest hc ih =>
      obtain ⟨-, hothers⟩ := List.forall_mem_cons.mp hjoints
      rw [ih hothers (List.isChain_cons_cons.mp hsingle).2]

end Dashes

section Slugs

variable {cs : List Char}

theorem takeSigned_isPrefix
    (n : Int)
    (cs : List Char) :
    takeSigned n cs <+: cs := by
  unfold takeSigned
  split
  · exact List.take_prefix _ cs
  · exact List.take_prefix _ cs

theorem takeSigned_natCast
    (n : Nat)
    (cs : List Char) :
    takeSigned n cs = cs.take n := by
  rw [takeSigned, if_pos (Int.natCast_nonneg n), Int.toNat_natCast]

theorem slugChar_of_mem_body
    {c : Char}
    (h : c ∈ dashes ((trimChars (slugChars cs)).map Char.toLower)) :
    SlugChar c := by
  rcases mem_dashes h with rfl | ⟨hc, hjoint⟩
  · exact .inr (.inr rfl)
  · obtain ⟨d, hd, rfl⟩ := List.mem_map.mp hc
    obtain ⟨-, hkept⟩ := List.mem_filter.mp (trimChars_subset _ hd)
    obtain ⟨hascii, hkept⟩ := Bool.and_eq_true_iff.mp hkept
    refine (slugChar_or_isJoint_toLower (of_decide_eq_true hascii) hkept).resolve_right ?_
    rw [hjoint]
    exact Bool.false_ne_true

theorem trimDashes_eq_trimBy (cs : List Char) :
    trimDashes cs = trimBy (· == '-') cs :=
  rfl

/-- Single dashes are evened by trimming, if anything is left. -/
theorem evened_trimDashes
    (hchars : ∀ c ∈ cs, SlugChar c)
    (hsingle : SingleDashes cs)
    (hsome : trimDashes cs ≠ []) :
    Evened (trimDashes cs) := by
  rw [trimDashes_eq_trimBy] at hsome ⊢
  have hpart := trimBy_isInfix (· == '-') cs
  obtain ⟨hfirst, hlast⟩ := (trimBy_eq_self_iff (· == '-') _).mp (trimBy_trimBy (· == '-') cs)
  refine ⟨hsome, fun c hc => hchars c (hpart.subset hc), List.IsChain.infix hsingle hpart, ?_, ?_⟩
  · exact fun h => absurd (hfirst '-' h) (by decide)
  · exact fun h => absurd (hlast '-' h) (by decide)

/-- The common name of texts that leave nothing is a word. -/
theorem slugWord_script :
    SlugWord "script".toList := by
  have hlower : "script".toList.all Char.isLower = true := by
    decide
  exact ⟨by decide, fun c hc => .inl (List.all_eq_true.mp hlower c hc)⟩

/-- Every slug has the form, whatever the text and wherever it is cut off. -/
theorem slugForm_slugOf
    (n : Int)
    (cs : List Char) :
    SlugForm (slugOf n cs) := by
  unfold slugOf
  dsimp only
  split
  · exact .word slugWord_script
  · next hsome =>
      have hpart := takeSigned_isPrefix n (dashes ((trimChars (slugChars cs)).map Char.toLower))
      refine (evened_trimDashes ?_ ?_ ?_).slugForm
      · exact fun c hc => slugChar_of_mem_body (hpart.subset hc)
      · exact List.IsChain.infix (singleDashes_dashes _) hpart.isInfix
      · simpa using hsome

/-- A slug is no longer than where it is cut off, if the common name is not. -/
theorem length_slugOf_le
    {n : Nat}
    (hn : 6 ≤ n)
    (cs : List Char) :
    (slugOf n cs).length ≤ n := by
  unfold slugOf
  dsimp only
  split
  · exact hn
  · rw [takeSigned_natCast]
    exact (trimBy_isInfix (· == '-') _).length_le.trans (List.length_take_le n _)

theorem slugChars_of_slugChar (h : ∀ c ∈ cs, SlugChar c) :
    slugChars cs = cs := by
  have hascii : ∀ c ∈ cs, skeleton c = [c] := fun c hc => if_pos (lt_of_slugChar (h c hc))
  have hskeleton : cs.flatMap skeleton = cs :=
    (List.flatMap_congr hascii).trans (List.flatMap_singleton' cs)
  rw [slugChars, hskeleton, List.filter_eq_self]
  intro c hc
  rw [(steady_of_slugChar (h c hc)).kept, decide_eq_true (lt_of_slugChar (h c hc))]
  rfl

/-- A text of the form of slugs stays as it is if it is not too long. -/
theorem slugOf_of_slugForm
    {n : Nat}
    (h : SlugForm cs)
    (hlength : cs.length ≤ n) :
    slugOf n cs = cs := by
  -- Each step leaves the text as it is, so their order does not matter.
  have hevened := h.evened
  have hsteady : ∀ c ∈ cs, Steady c := fun c hc => steady_of_slugChar (hevened.chars c hc)
  have htrim : trimChars cs = cs :=
    (trimBy_eq_self_iff isBlank cs).mpr
      ⟨fun c hc => (hsteady c (List.mem_of_head? hc)).solid,
        fun c hc => (hsteady c (List.mem_of_getLast? hc)).solid⟩
  have hlower : cs.map Char.toLower = cs :=
    (List.map_congr_left fun c hc => (hsteady c hc).lower).trans (List.map_id cs)
  have hdashes : dashes cs = cs :=
    dashes_of_singleDashes (fun c hc => (hsteady c hc).joint) hevened.single
  have htrimDashes : trimDashes cs = cs := by
    refine (trimBy_eq_self_iff (· == '-') cs).mpr ⟨fun c hc => ?_, fun c hc => ?_⟩
    · exact beq_false_of_ne fun hdash => hevened.first (hdash ▸ hc)
    · exact beq_false_of_ne fun hdash => hevened.last (hdash ▸ hc)
  unfold slugOf
  dsimp only
  rw [slugChars_of_slugChar hevened.chars, htrim, hlower, hdashes, takeSigned_natCast,
    List.take_of_length_le hlength, htrimDashes, if_neg (by simpa using hevened.nonempty)]

/-- The slug of a text has the form of slugs. -/
theorem slugForm_slug (s : String) :
    SlugForm (slug s).toList := by
  rw [slug, String.toList_ofList]
  exact slugForm_slugOf slugLength s.toList

theorem length_slug_le (s : String) :
    (slug s).length ≤ 60 := by
  rw [slug, String.length_ofList]
  exact length_slugOf_le (n := 60) (by decide) s.toList

/-- No slug is empty. -/
theorem slug_ne_empty (s : String) :
    slug s ≠ "" := by
  intro h
  have hform := slugForm_slug s
  rw [h] at hform
  exact hform.evened.nonempty rfl

/-- The slugs are just the texts of the form of slugs that are not too long. -/
theorem slug_eq_self_iff (s : String) :
    slug s = s ↔ SlugForm s.toList ∧ s.length ≤ 60 := by
  constructor
  · intro h
    rw [← h]
    exact ⟨slugForm_slug s, length_slug_le s⟩
  · rintro ⟨hform, hlength⟩
    have hsame : slugOf slugLength s.toList = s.toList :=
      slugOf_of_slugForm (n := 60) hform (String.length_toList ▸ hlength)
    rw [slug, hsame, String.ofList_toList]

end Slugs

end Text
end PageScripts
