import Mathlib.Data.List.DropRight
import PageScripts.Name

/-!
# Trimmed texts

A text is trimmed by taking off, at both ends, the characters for which a test holds.

* `forall_ascii`: a test of characters can be tried for the ASCII characters one by one.
* `trimBy`: trimming by any test; blanks and dashes are trimmed so.
* `trimBy_eq_self_iff`: just the texts that neither begin nor end with such a character stay as they
  are.
* `trim_trim`: trimming a second time changes nothing.
* `trim_eq_empty_iff`: only blanks are trimmed to the empty text.
* `trimChars_append_of_blank`: blanks before a text are trimmed with it.
* `trim_ne_empty_of_isHandle`: the name of a script is never blank.
-/

namespace PageScripts
namespace Text

/-- What is shown for all ASCII characters one by one holds of each. -/
theorem forall_ascii
    (test : Char → Bool)
    (h : ∀ n < 128, test (Char.ofNat n) = true)
    {c : Char}
    (hc : c.toNat < 128) :
    test c = true := by
  have hn := h c.toNat hc
  rwa [Char.ofNat_toNat] at hn

/-- The end of a text is trimmed by dropping from the right. -/
theorem dropLastWhile_eq_rdropWhile
    (test : Char → Bool)
    (cs : List Char) :
    dropLastWhile test cs = cs.rdropWhile test :=
  rfl

/-- What is left of a text without blanks at its start has none at its start either. -/
theorem dropWhile_of_prefix
    {test : Char → Bool}
    {cs front : List Char}
    (h : front <+: cs.dropWhile test) :
    front.dropWhile test = front := by
  cases front with
  | nil =>
      rfl
  | cons c rest =>
      obtain ⟨tail, htail⟩ := h
      have hidle := List.dropWhile_idempotent test cs
      rw [← htail, List.cons_append, List.dropWhile_cons] at hidle
      rw [List.dropWhile_cons]
      by_cases hc : test c = true
      · rw [if_pos hc] at hidle
        have hshorter := List.length_dropWhile_le test (rest ++ tail)
        rw [hidle, List.length_cons] at hshorter
        omega
      · rw [if_neg hc]

section Ends

variable (test : Char → Bool)

/-- The text without the characters at both ends for which the test holds. -/
def trimBy (cs : List Char) : List Char :=
  dropLastWhile test (cs.dropWhile test)

theorem trimChars_eq_trimBy (cs : List Char) :
    trimChars cs = trimBy isBlank cs :=
  rfl

theorem trimBy_trimBy (cs : List Char) :
    trimBy test (trimBy test cs) = trimBy test cs := by
  unfold trimBy
  rw [dropLastWhile_eq_rdropWhile, dropLastWhile_eq_rdropWhile,
    dropWhile_of_prefix (List.rdropWhile_prefix test _), List.rdropWhile_idempotent]

theorem trimBy_isInfix (cs : List Char) :
    trimBy test cs <:+: cs :=
  (List.rdropWhile_prefix test _).isInfix.trans (List.dropWhile_suffix test).isInfix

theorem mem_dropWhile_of_not
    {cs : List Char}
    {c : Char}
    (hmem : c ∈ cs)
    (hc : test c = false) :
    c ∈ cs.dropWhile test := by
  rw [← List.takeWhile_append_dropWhile (p := test) (l := cs)] at hmem
  rcases List.mem_append.mp hmem with htaken | hleft
  · rw [List.mem_takeWhile_imp htaken] at hc
    cases hc
  · exact hleft

/-- The other characters are left. -/
theorem mem_trimBy_of_not
    {cs : List Char}
    {c : Char}
    (hmem : c ∈ cs)
    (hc : test c = false) :
    c ∈ trimBy test cs := by
  have hfront := mem_dropWhile_of_not test hmem hc
  exact List.mem_reverse.mpr (mem_dropWhile_of_not test (List.mem_reverse.mpr hfront) hc)

theorem dropWhile_eq_self_iff_head (cs : List Char) :
    cs.dropWhile test = cs ↔ ∀ c ∈ cs.head?, test c = false := by
  rw [List.dropWhile_eq_self_iff]
  cases cs with
  | nil =>
      simp
  | cons c rest =>
      simp

theorem rdropWhile_eq_self_iff_getLast (cs : List Char) :
    cs.rdropWhile test = cs ↔ ∀ c ∈ cs.getLast?, test c = false := by
  rw [List.rdropWhile_eq_self_iff]
  cases cs using List.reverseRecOn with
  | nil =>
      simp
  | append_singleton rest c =>
      simp

/-- Nothing is taken off just if no such character is at an end. -/
theorem trimBy_eq_self_iff (cs : List Char) :
    trimBy test cs = cs ↔
      (∀ c ∈ cs.head?, test c = false) ∧ ∀ c ∈ cs.getLast?, test c = false := by
  rw [trimBy, dropLastWhile_eq_rdropWhile]
  constructor
  · intro h
    have hlength := (List.rdropWhile_prefix test (cs.dropWhile test)).length_le
    rw [h] at hlength
    have hfront : cs.dropWhile test = cs :=
      (List.dropWhile_suffix test).eq_of_length_le hlength
    rw [hfront] at h
    exact ⟨(dropWhile_eq_self_iff_head test cs).mp hfront,
      (rdropWhile_eq_self_iff_getLast test cs).mp h⟩
  · rintro ⟨hfirst, hlast⟩
    rw [(dropWhile_eq_self_iff_head test cs).mpr hfirst,
      (rdropWhile_eq_self_iff_getLast test cs).mpr hlast]

end Ends

theorem trimChars_trimChars (cs : List Char) :
    trimChars (trimChars cs) = trimChars cs := by
  simp only [trimChars_eq_trimBy, trimBy_trimBy]

@[simp]
theorem trim_trim (s : String) :
    trim (trim s) = trim s := by
  unfold trim
  rw [String.toList_ofList, trimChars_trimChars]

theorem trimChars_eq_nil_iff (cs : List Char) :
    trimChars cs = [] ↔ ∀ c ∈ cs, isBlank c = true := by
  unfold trimChars
  rw [dropLastWhile_eq_rdropWhile, List.rdropWhile_eq_nil_iff]
  constructor
  · intro h
    have hnone := List.dropWhile_eq_nil_iff.mpr h
    rw [List.dropWhile_idempotent] at hnone
    exact List.dropWhile_eq_nil_iff.mp hnone
  · intro h c hmem
    exact h c ((List.dropWhile_suffix isBlank).subset hmem)

/-- Blanks before a text are trimmed with it. -/
theorem trimChars_append_of_blank
    {blanks : List Char}
    (hblanks : ∀ c ∈ blanks, isBlank c = true)
    (cs : List Char) :
    trimChars (blanks ++ cs) = trimChars cs := by
  rw [trimChars, List.dropWhile_append_of_pos hblanks, trimChars]

/-- Trimming brings no characters. -/
theorem trimChars_subset (cs : List Char) :
    trimChars cs ⊆ cs :=
  (trimBy_isInfix isBlank cs).subset

theorem trim_eq_empty_iff (s : String) :
    trim s = "" ↔ ∀ c ∈ s.toList, isBlank c = true := by
  rw [← trimChars_eq_nil_iff, ← toList_trim, String.toList_eq_nil_iff]

end Text

/-- Letters, digits, dashes and underscores are no blanks. -/
theorem not_isBlank_of_isHandleChar
    {c : Char}
    (h : isHandleChar c = true) :
    Text.isBlank c = false := by
  simp only [isHandleChar, Text.isAlnum, Bool.or_eq_true, Bool.and_eq_true, decide_eq_true_eq,
    beq_iff_eq, Char.le_def, UInt32.le_iff_toNat_le] at h
  have hcode : (0x30 ≤ c.toNat ∧ c.toNat ≤ 0x7A) ∨ c.toNat = 0x2D := by
    rcases h with (((⟨hlow, hhigh⟩ | ⟨hlow, hhigh⟩) | ⟨hlow, hhigh⟩) | rfl) | rfl
    · exact .inl ⟨Nat.le_trans (by decide) hlow, hhigh⟩
    · exact .inl ⟨Nat.le_trans (by decide) hlow, Nat.le_trans hhigh (by decide)⟩
    · exact .inl ⟨hlow, Nat.le_trans hhigh (by decide)⟩
    · exact .inl (by decide)
    · exact .inr rfl
  simp only [Text.isBlank, Bool.or_eq_false_iff, Bool.and_eq_false_iff, decide_eq_false_iff_not,
    beq_eq_false_iff_ne]
  omega

/-- The name of a script is not blank. -/
theorem trim_ne_empty_of_isHandle
    {s : String}
    (h : isHandle s = true) :
    Text.trim s ≠ "" := by
  intro hblank
  rw [Text.trim_eq_empty_iff] at hblank
  simp only [isHandle, Bool.and_eq_true, Bool.not_eq_true', List.isEmpty_eq_false_iff,
    List.all_eq_true] at h
  obtain ⟨hsome, hchars⟩ := h
  obtain ⟨c, hmem⟩ := List.exists_mem_of_ne_nil _ hsome
  have hsub : c ∈ s.toList := by
    unfold chomp at hmem
    split at hmem
    · exact (List.dropLast_sublist _).subset hmem
    · exact hmem
  have hnot := not_isBlank_of_isHandleChar (hchars c hmem)
  rw [hblank c hsub] at hnot
  cases hnot

end PageScripts
