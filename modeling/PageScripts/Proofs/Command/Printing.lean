import Mathlib.Data.List.Basic
import PageScripts.Command.Terminal
import PageScripts.Proofs.Result

/-!
# What a terminal shows

The terminal reads the style tags of what it is handed, and in a text without marks there are none:
a dimmed line without marks is shown as it is (`Styled.plain_dimmed`).  So the terminal is lawful.
-/

namespace PageScripts

/-- The text has no marks that a console would look at. -/
def Console.Unmarked (cs : List Char) : Prop :=
  ∀ c ∈ cs, isUnmarked c = true

theorem Styled.isSignal_of_isUnmarked
    {c : Char}
    (h : Console.isUnmarked c = true) :
    isSignal c = false := by
  simp only [Console.isUnmarked, Bool.and_eq_true, decide_eq_true_eq] at h
  simp only [isSignal, List.contains_eq_mem, decide_eq_false_iff_not, List.mem_cons,
    List.not_mem_nil, or_false]
  omega

theorem Text.showPictures_of_not_mem
    {cs : List Char}
    (h : ':' ∉ cs) :
    showPictures cs = cs := by
  induction cs with
  | nil =>
      rw [showPictures]
  | cons c cs ih =>
      obtain ⟨hc, hcs⟩ := not_or.mp (mt List.mem_cons.mpr h)
      rw [showPictures, if_neg (Ne.symm hc), ih hcs]

namespace Console

theorem Unmarked.of_all
    {cs : List Char}
    (h : cs.all isUnmarked = true) :
    Unmarked cs :=
  List.all_eq_true.mp h

theorem Unmarked.append
    {first second : List Char}
    (hfirst : Unmarked first)
    (hsecond : Unmarked second) :
    Unmarked (first ++ second) := by
  intro c h
  exact (List.mem_append.mp h).elim (hfirst c) (hsecond c)

/-- A number in digits has no marks. -/
theorem unmarked_number (n : Nat) :
    Unmarked (toString n).toList := by
  intro c h
  rw [Nat.toString_eq_ofList_toDigits, String.toList_ofList] at h
  have hdigit : c.isDigit = true := Nat.isDigit_of_mem_toDigits (by decide) (by decide) h
  have hrange : 48 ≤ c.toNat ∧ c.toNat ≤ 57 := by
    simpa [Char.isDigit, UInt32.le_iff_toNat_le] using hdigit
  have hother : ∀ other : Char, (other.toNat < 48 ∨ 57 < other.toNat) → c ≠ other := by
    rintro other hout rfl
    omega
  have hshown : 0x20 ≤ c.toNat := by
    omega
  simp [isUnmarked, hshown, hother '[' (by decide), hother '\\' (by decide),
    hother ':' (by decide)]

end Console

namespace Styled

open Console (Unmarked isUnmarked)

theorem inFront_inFront
    (first second : List Char)
    (parts : List Part) :
    inFront first (inFront second parts) = inFront (first ++ second) parts := by
  cases parts with
  | nil =>
      simp [inFront]
  | cons part rest =>
      cases part <;> simp [inFront]

/-- Characters without marks are plain text in front of what follows. -/
theorem partsAfter_unmarked
    {c : Char}
    {cs : List Char}
    (h : Unmarked (c :: cs))
    (rest : List Char) :
    partsAfter 0 (c :: cs ++ rest) = inFront (c :: cs) (partsAfter 0 rest) := by
  induction cs generalizing c with
  | nil =>
      have hc := h c List.mem_cons_self
      simp only [isUnmarked, Bool.and_eq_true, bne_iff_ne] at hc
      simp [partsAfter, hc]
  | cons d ds ih =>
      have hc := h c List.mem_cons_self
      simp only [isUnmarked, Bool.and_eq_true, bne_iff_ne] at hc
      have hrest := ih fun other hother => h other (List.mem_cons_of_mem c hother)
      rw [List.cons_append, partsAfter, if_neg hc.1.1.2, if_neg hc.1.1.1, hrest,
        List.replicate_zero, List.nil_append, inFront_inFront]
      rfl

theorem partsAfter_tag
    {body rest : List Char}
    (h : tagBody? (body ++ ']' :: rest) = some body) :
    partsAfter 0 ('[' :: body ++ ']' :: rest) = .escaped [] :: .tag body :: partsAfter 0 rest := by
  rw [List.cons_append, partsAfter, if_neg (by decide), if_pos rfl, h]
  simp [tagParts]

/-- Text without marks is shown as it is. -/
theorem shown_of_unmarked
    {cs : List Char}
    (h : Unmarked cs) :
    Text.showPictures cs = cs ∧ cs.filter (fun c => !isSignal c) = cs := by
  constructor
  · refine Text.showPictures_of_not_mem fun hmem => ?_
    have hcolon := h ':' hmem
    simp [isUnmarked] at hcolon
  · refine List.filter_eq_self.mpr fun c hmem => ?_
    rw [isSignal_of_isUnmarked (h c hmem)]
    rfl

theorem parts_dimmed
    {text : String}
    (hne : text ≠ "")
    (h : Unmarked text.toList) :
    parts ("  [dim]" ++ text ++ "[/dim]\n") =
      [ .plain [' ', ' '], .escaped [], .tag "dim".toList, .plain text.toList, .escaped [],
        .tag "/dim".toList, .plain ['\n'] ] := by
  have hshape : ("  [dim]" ++ text ++ "[/dim]\n").toList =
      [' ', ' '] ++ ('[' :: "dim".toList ++ ']' ::
        (text.toList ++ ('[' :: "/dim".toList ++ ']' :: ['\n']))) := by
    simp
  have hstart : Unmarked [' ', ' '] := .of_all (by decide)
  obtain ⟨c, cs, hcs⟩ : ∃ c cs, text.toList = c :: cs :=
    List.exists_cons_of_ne_nil (mt String.toList_eq_nil_iff.mp hne)
  rw [parts, hshape, partsAfter_unmarked hstart, partsAfter_tag rfl, hcs,
    partsAfter_unmarked (hcs ▸ h), partsAfter_tag rfl]
  simp [inFront, partsAfter]

/-- A dimmed line without marks is printed as it is. -/
theorem plain_dimmed
    {text : String}
    (hne : text ≠ "")
    (h : Unmarked text.toList) :
    plain ("  [dim]" ++ text ++ "[/dim]\n") = .ok ("  " ++ text ++ "\n").toList := by
  have htext : ("  " ++ text ++ "\n").toList = [' ', ' '] ++ text.toList ++ ['\n'] := by
    simp
  have hstart : Unmarked [' ', ' '] := .of_all (by decide)
  have hparts := parts_dimmed hne h
  have hopened : afterTag [] "dim".toList = .ok [{ name := "dim", parameters := none }] := by
    decide +kernel
  have hclosed : afterTag [{ name := "dim", parameters := none }] "/dim".toList = .ok [] := by
    decide +kernel
  have hread : readTags [.tag "dim".toList] = .ok () := by
    decide +kernel
  have hnone : Text.showPictures [] = [] := Text.showPictures_of_not_mem List.not_mem_nil
  have hend : Text.showPictures ['\n'] = ['\n'] := Text.showPictures_of_not_mem (by decide)
  have hshown : shownChars [] (parts ("  [dim]" ++ text ++ "[/dim]\n")) =
      .ok ("  " ++ text ++ "\n").toList := by
    rw [hparts, htext]
    simp only [shownChars, hopened, hclosed, (shown_of_unmarked h).1,
      (shown_of_unmarked hstart).1, hend, hnone, bind, Except.bind, pure,
      Except.pure]
    simp
  have hstripped : stripped ("  [dim]" ++ text ++ "[/dim]\n") =
      .ok ("  " ++ text ++ "\n").toList := by
    unfold stripped
    rw [hshown, htext]
    change Except.ok (List.filter _ ([' ', ' '] ++ text.toList ++ ['\n'])) = _
    rw [List.filter_append, List.filter_append, (shown_of_unmarked h).2]
    rfl
  have hstyles : readStyles ("  [dim]" ++ text ++ "[/dim]\n") = .ok () := by
    rw [readStyles, hparts]
    exact hread
  unfold plain
  rw [hstripped, hstyles]
  rfl

end Styled

/-- The terminal shows a dimmed line without marks. -/
theorem render_dimmed
    {text : String}
    (hne : text ≠ "")
    (h : text.toList.all Console.isUnmarked = true) :
    ∃ lines, Console.render (.dimmed text) = .ok lines := by
  refine ⟨(Styled.printedLines ("  " ++ text ++ "\n").toList).map String.ofList, ?_⟩
  simp only [Console.render, Shown.dimmed, Styled.plain_dimmed hne (.of_all h)]
  rfl

instance lawful_terminal : LawfulConsole where
  dimmed _ _ hfirst hsecond hplain hother _ := by
    obtain ⟨lines, hlines⟩ := render_dimmed hfirst hplain
    obtain ⟨more, hmore⟩ := render_dimmed hsecond hother
    exact .inl ⟨lines, more, hlines, hmore⟩

end PageScripts
