/-!
# Cutting texts at a character

`pieces` cuts a text at every occurrence of a separator, `cutFirst` at the first one only.
Joining the pieces with the separator gives the text back (`joinPieces_pieces`), and so does joining
what `cutFirst` gives (`eq_of_cutFirst`).
-/

namespace PageScripts
namespace Text

/-- The pieces of a text between the occurrences of a separator; one more than there are
separators. -/
def pieces
    (sep : Char) :
    List Char → List (List Char)
  | [] => [[]]
  | c :: cs =>
      if c = sep then
        [] :: pieces sep cs
      else
        match pieces sep cs with
        | [] => [[c]]
        | p :: ps => (c :: p) :: ps

/-- Pieces with a separator between them. -/
def joinPieces
    (sep : Char) :
    List (List Char) → List Char
  | [] => []
  | [p] => p
  | p :: q :: ps => p ++ sep :: joinPieces sep (q :: ps)

theorem pieces_ne_nil
    (sep : Char)
    (cs : List Char) :
    pieces sep cs ≠ [] := by
  cases cs with
  | nil => simp [pieces]
  | cons c cs =>
      simp only [pieces]
      split
      · simp
      · split <;> simp

/-- Cutting and joining again changes nothing. -/
theorem joinPieces_pieces
    (sep : Char)
    (cs : List Char) :
    joinPieces sep (pieces sep cs) = cs := by
  induction cs with
  | nil => rfl
  | cons c cs ih =>
      have hne := pieces_ne_nil sep cs
      simp only [pieces]
      cases hp : pieces sep cs with
      | nil => exact absurd hp hne
      | cons p ps =>
          rw [hp] at ih
          by_cases hc : c = sep
          · simp [hc, joinPieces, ih]
          · cases ps with
            | nil => simp_all [joinPieces]
            | cons q qs => simp_all [joinPieces]

/-- No piece holds the separator. -/
theorem not_mem_of_mem_pieces
    (sep : Char)
    (cs : List Char) :
    ∀ p ∈ pieces sep cs, sep ∉ p := by
  induction cs with
  | nil => simp [pieces]
  | cons c cs ih =>
      simp only [pieces]
      by_cases hc : c = sep
      · simpa [hc] using ih
      · have hc' : sep ≠ c := fun h => hc h.symm
        cases hp : pieces sep cs with
        | nil => simp [hc, hc']
        | cons p ps =>
            rw [hp] at ih
            simp only [List.mem_cons, forall_eq_or_imp] at ih
            simp only [hc, if_false, List.mem_cons, forall_eq_or_imp]
            exact ⟨by simp [hc', ih.1], ih.2⟩

/-- What stands before the first occurrence of a separator, and what stands after it if there
is one. -/
def cutFirst
    (sep : Char)
    (cs : List Char) :
    List Char × Option (List Char) :=
  let before := cs.takeWhile (· != sep)
  match cs.drop before.length with
  | [] => (before, none)
  | _ :: after => (before, some after)

theorem fst_cutFirst
    (sep : Char)
    (cs : List Char) :
    (cutFirst sep cs).1 = cs.takeWhile (· != sep) := by
  unfold cutFirst
  simp only
  split <;> rfl

theorem cutFirst_cons
    (sep c : Char)
    (cs : List Char) :
    cutFirst sep (c :: cs) =
      if c = sep then ([], some cs) else (c :: (cutFirst sep cs).1, (cutFirst sep cs).2) := by
  by_cases hc : c = sep
  · simp [cutFirst, hc]
  · unfold cutFirst
    simp only [List.takeWhile_cons, bne_iff_ne, ne_eq, hc, not_false_eq_true, if_true, if_false,
      List.length_cons, List.drop_succ_cons]
    split <;> rfl

/-- A text that is cut is what stands before the separator, the separator, and what follows. -/
theorem eq_of_cutFirst
    {sep : Char}
    {cs before after : List Char}
    (h : cutFirst sep cs = (before, some after)) :
    cs = before ++ sep :: after := by
  induction cs generalizing before with
  | nil =>
      cases h
  | cons c cs ih =>
      rw [cutFirst_cons] at h
      by_cases hc : c = sep
      · rw [if_pos hc] at h
        cases h
        rw [hc]
        rfl
      · rw [if_neg hc] at h
        obtain ⟨hbefore, hafter⟩ := Prod.mk.inj h
        rw [← hbefore, List.cons_append, ← ih (Prod.ext rfl hafter)]

/-- What is put behind a text that is cut goes to the second part. -/
theorem cutFirst_append
    {sep : Char}
    {cs before after : List Char}
    (h : cutFirst sep cs = (before, some after))
    (more : List Char) :
    cutFirst sep (cs ++ more) = (before, some (after ++ more)) := by
  induction cs generalizing before with
  | nil =>
      cases h
  | cons c cs ih =>
      rw [cutFirst_cons] at h
      rw [List.cons_append, cutFirst_cons]
      by_cases hc : c = sep
      · rw [if_pos hc] at h
        rw [if_pos hc]
        cases h
        rfl
      · rw [if_neg hc] at h
        obtain ⟨hbefore, hafter⟩ := Prod.mk.inj h
        rw [if_neg hc, ih (Prod.ext rfl hafter), ← hbefore]

/-- What stands before the last occurrence of a separator, if there is one, and what stands
after it. -/
def cutLast
    (sep : Char)
    (cs : List Char) :
    Option (List Char) × List Char :=
  let (after, before) := cutFirst sep cs.reverse
  (before.map List.reverse, after.reverse)

/-- The pieces of a text, as texts. -/
def split
    (sep : Char)
    (s : String) :
    List String :=
  (pieces sep s.toList).map String.ofList

end Text
end PageScripts
