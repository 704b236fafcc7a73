import Mathlib.Data.List.TakeWhile
import PageScripts.Text.Pieces

/-!
# Texts that are put together are cut where they were joined

* `pieces_joinPieces`: pieces without the separator are cut out again as they were joined.
* `pieces_intercalate`: so are they when the separator was put between them with a text behind it.
* `cutFirst_marked`: so is a part that was put behind a mark; a part that is empty leaves no mark.
* `mem_of_mem_pieces`, `mem_joinPieces`, `mem_of_cutFirst`: no characters come from elsewhere.
-/

namespace PageScripts
namespace Text

/-- A part behind its mark; an empty part leaves no mark. -/
def marked
    (mark : Char)
    (part : List Char) :
    List Char :=
  if part = [] then [] else mark :: part

section Pieces

variable {sep : Char}

/-- A text without the separator is one piece. -/
theorem pieces_of_not_mem
    {cs : List Char}
    (h : sep ∉ cs) :
    pieces sep cs = [cs] := by
  induction cs with
  | nil =>
      rfl
  | cons c rest ih =>
      obtain ⟨hc, hrest⟩ := not_or.mp (mt List.mem_cons.mpr h)
      simp only [pieces, if_neg (Ne.symm hc), ih hrest]

/-- What stands before the first separator is the first piece. -/
theorem pieces_append_cons
    {piece : List Char}
    (h : sep ∉ piece)
    (rest : List Char) :
    pieces sep (piece ++ sep :: rest) = piece :: pieces sep rest := by
  induction piece with
  | nil =>
      simp [pieces]
  | cons c piece ih =>
      obtain ⟨hc, hpiece⟩ := not_or.mp (mt List.mem_cons.mpr h)
      simp only [List.cons_append, pieces, if_neg (Ne.symm hc), ih hpiece]

theorem pieces_joinPieces
    {parts : List (List Char)}
    (hsome : parts ≠ [])
    (hfree : ∀ part ∈ parts, sep ∉ part) :
    pieces sep (joinPieces sep parts) = parts := by
  induction parts with
  | nil =>
      exact absurd rfl hsome
  | cons part rest ih =>
      obtain ⟨hpart, hrest⟩ := List.forall_mem_cons.mp hfree
      cases rest with
      | nil =>
          exact pieces_of_not_mem hpart
      | cons next others =>
          rw [joinPieces, pieces_append_cons hpart, ih (List.cons_ne_nil next others) hrest]

theorem joinPieces_append_cons
    (front piece : List Char)
    (rest : List (List Char)) :
    joinPieces sep ((front ++ piece) :: rest) = front ++ joinPieces sep (piece :: rest) := by
  cases rest with
  | nil =>
      rfl
  | cons next others =>
      rw [joinPieces, joinPieces, List.append_assoc]

/-- A text that stands behind every separator goes to the pieces that follow. -/
theorem intercalate_eq_joinPieces
    (sep : Char)
    (front first : List Char)
    (rest : List (List Char)) :
    (sep :: front).intercalate (first :: rest) = joinPieces sep (first :: rest.map (front ++ ·)) := by
  induction rest generalizing first with
  | nil =>
      rw [List.intercalate_singleton]
      rfl
  | cons next others ih =>
      rw [List.intercalate_cons_cons, ih, List.map_cons, joinPieces, joinPieces_append_cons,
        List.append_assoc, List.cons_append]

/-- Parts without the separator are cut out again, each but the first with the text that was put behind
the separators. -/
theorem pieces_intercalate
    {front first : List Char}
    {rest : List (List Char)}
    (hfront : sep ∉ front)
    (hfree : ∀ part ∈ first :: rest, sep ∉ part) :
    pieces sep ((sep :: front).intercalate (first :: rest)) = first :: rest.map (front ++ ·) := by
  obtain ⟨hfirst, hrest⟩ := List.forall_mem_cons.mp hfree
  rw [intercalate_eq_joinPieces]
  refine pieces_joinPieces (List.cons_ne_nil first _) (List.forall_mem_cons.mpr ⟨hfirst, ?_⟩)
  intro part hpart
  obtain ⟨raw, hraw, rfl⟩ := List.mem_map.mp hpart
  rw [List.mem_append, not_or]
  exact ⟨hfront, hrest raw hraw⟩

theorem mem_of_mem_pieces
    {cs piece : List Char}
    (hpiece : piece ∈ pieces sep cs)
    {c : Char}
    (hc : c ∈ piece) :
    c ∈ cs := by
  induction cs generalizing piece with
  | nil =>
      rw [List.mem_singleton.mp hpiece] at hc
      exact hc
  | cons first rest ih =>
      simp only [pieces] at hpiece
      split at hpiece
      · rcases List.mem_cons.mp hpiece with rfl | hpiece
        · cases hc
        · exact List.mem_cons_of_mem first (ih hpiece hc)
      · split at hpiece
        · rw [List.mem_singleton.mp hpiece] at hc
          exact List.mem_cons.mpr (.inl (List.mem_singleton.mp hc))
        · next head others hpieces =>
            rcases List.mem_cons.mp hpiece with rfl | hother
            · rcases List.mem_cons.mp hc with rfl | hc
              · exact List.mem_cons_self
              · exact List.mem_cons_of_mem first (ih (hpieces ▸ List.mem_cons_self) hc)
            · exact List.mem_cons_of_mem first
                (ih (hpieces ▸ List.mem_cons_of_mem head hother) hc)

theorem mem_joinPieces
    {parts : List (List Char)}
    {c : Char}
    (hc : c ∈ joinPieces sep parts) :
    c = sep ∨ ∃ part ∈ parts, c ∈ part := by
  induction parts with
  | nil =>
      cases hc
  | cons part rest ih =>
      cases rest with
      | nil =>
          exact .inr ⟨part, List.mem_cons_self, hc⟩
      | cons next others =>
          rw [joinPieces] at hc
          rcases List.mem_append.mp hc with hpart | hrest
          · exact .inr ⟨part, List.mem_cons_self, hpart⟩
          · rcases List.mem_cons.mp hrest with rfl | hlater
            · exact .inl rfl
            · rcases ih hlater with rfl | ⟨other, hother, hmem⟩
              · exact .inl rfl
              · exact .inr ⟨other, List.mem_cons_of_mem part hother, hmem⟩

end Pieces

section Cuts

variable {sep : Char}

theorem cutFirst_of_not_mem
    {cs : List Char}
    (h : sep ∉ cs) :
    cutFirst sep cs = (cs, none) := by
  induction cs with
  | nil =>
      rfl
  | cons c rest ih =>
      obtain ⟨hc, hrest⟩ := not_or.mp (mt List.mem_cons.mpr h)
      rw [cutFirst_cons, if_neg (Ne.symm hc), ih hrest]

theorem cutFirst_append_cons
    {before : List Char}
    (h : sep ∉ before)
    (after : List Char) :
    cutFirst sep (before ++ sep :: after) = (before, some after) := by
  induction before with
  | nil =>
      rw [List.nil_append, cutFirst_cons, if_pos rfl]
  | cons c before ih =>
      obtain ⟨hc, hbefore⟩ := not_or.mp (mt List.mem_cons.mpr h)
      rw [List.cons_append, cutFirst_cons, if_neg (Ne.symm hc), ih hbefore]

/-- A part behind its mark is cut off again. -/
theorem cutFirst_marked
    {before : List Char}
    (h : sep ∉ before)
    (part : List Char) :
    (cutFirst sep (before ++ marked sep part)).1 = before ∧
    (cutFirst sep (before ++ marked sep part)).2.getD [] = part := by
  unfold marked
  by_cases hpart : part = []
  · rw [if_pos hpart, List.append_nil, cutFirst_of_not_mem h, hpart]
    exact ⟨rfl, rfl⟩
  · rw [if_neg hpart, cutFirst_append_cons h]
    exact ⟨rfl, rfl⟩

theorem not_mem_fst_cutFirst (cs : List Char) :
    sep ∉ (cutFirst sep cs).1 := by
  rw [fst_cutFirst]
  intro hmem
  simpa using List.mem_takeWhile_imp hmem

theorem snd_cutFirst (cs : List Char) :
    (cutFirst sep cs).2 = (cs.dropWhile (· != sep)).tail? := by
  induction cs with
  | nil =>
      rfl
  | cons c rest ih =>
      rw [cutFirst_cons, List.dropWhile_cons]
      by_cases hc : c = sep
      · simp [hc]
      · simpa [hc] using ih

/-- The two parts of a text that is cut are made of its characters. -/
theorem mem_of_cutFirst
    {cs : List Char}
    {c : Char}
    (hc : c ∈ (cutFirst sep cs).1 ∨ c ∈ (cutFirst sep cs).2.getD []) :
    c ∈ cs := by
  rcases hc with hc | hc
  · rw [fst_cutFirst] at hc
    exact (List.takeWhile_prefix _).subset hc
  · cases hcut : (cutFirst sep cs).2 with
    | none =>
        rw [hcut] at hc
        cases hc
    | some after =>
        rw [hcut] at hc
        rw [eq_of_cutFirst (Prod.ext rfl hcut)]
        exact List.mem_append_right _ (List.mem_cons_of_mem sep hc)

end Cuts

end Text
end PageScripts
