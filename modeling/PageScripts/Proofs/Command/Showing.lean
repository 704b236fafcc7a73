import PageScripts.Command.Rehearsal
import PageScripts.Proofs.Command.Printing
import PageScripts.Proofs.Command.Talk

/-!
# A page with the note on saving and without it

A page that was rendered is printed line by line: the scripts of the queue, those that were taken out,
and last what the pass did.  Without saving there is a note in that last line, and this is all that the
two pages differ in.

* `run_printPage`: the lines before the last ones are the same, or the console stops at the same of
  them.
* `alike_summary`: on a lawful console the last lines are shown with the note and without it, or for
  one reason neither.
* `rehearses_printPage` puts the two together.
-/

namespace PageScripts

open PageScripts.Action

section Defs

/-- Two endings are alike: the same, but for what was handed to a console that did not show it. -/
def Ending.Alike : Ending → Ending → Prop
  | .unshown _ why, .unshown _ other => why = other
  | first, second => first = second

namespace Desk

/-- Two runs end alike. -/
def EndAlike : Except Ending Unit → Except Ending Unit → Prop
  | .ok (), .ok () => True
  | .error first, .error second => first.Alike second
  | _, _ => False

/-- The note on a page that was rendered without saving. -/
def note (persist : Bool) : String :=
  if persist then "" else " (bez zapisu)"

/-- How many scripts there are in a queue, and what a pass did, in words. -/
def counts
    (queue : RenderQueue)
    (report : RenderReport) :
    String :=
  toString queue.queued.length ++ " w kolejce · dodano " ++ toString report.added.length
    ++ " · usunięto " ++ toString report.removed.length
    ++ " · odkryto " ++ toString report.discovered.length

/-- What is printed last on a page. -/
def summary
    (queue : RenderQueue)
    (report : RenderReport)
    (persist : Bool) :
    Shown :=
  .dimmed (counts queue report ++ note persist)

variable [Console]

/-- The lines on a page before the last ones: the scripts of the queue, and which were taken out. -/
def pageLines
    (queue : RenderQueue)
    (report : RenderReport) :
    Except Unshown (List String) := do
  let blank ← Console.render (.literal "")
  let table ← Console.render (.table queueColumns (queue.queued.map (queueRow queue report)))
  let removed ← report.removed.mapM fun handle =>
    Console.render (.styled ("  [red]usunięty:[/red] " ++ handle))
  return blank ++ table ++ removed.flatten

/-- A run without saving ends as the other one does, and prints the same lines.  If both come to the
end, they have printed the same page, but for the note in its last line. -/
def Rehearses (dry live : Except Ending Unit × Desk) : Prop :=
  EndAlike dry.1 live.1 ∧
  (dry.1 ≠ .ok () → dry.2.lines = live.2.lines) ∧
  (dry.1 = .ok () → ∃ queue report before shown noted last,
    pageLines queue report = .ok shown ∧
    Console.render (summary queue report false) = .ok noted ∧
    Console.render (summary queue report true) = .ok last ∧
    dry.2.lines = before ++ shown ++ noted ∧
    live.2.lines = before ++ shown ++ last)

end Desk

end Defs

theorem Ending.alike_self (ending : Ending) :
    ending.Alike ending := by
  cases ending <;> rfl

namespace Desk

variable [Console]

section Page

variable (queue : RenderQueue)
variable (report : RenderReport)

theorem print_summary (persist : Bool) :
    print ("  [dim]" ++ toString queue.queued.length ++ " w kolejce · dodano "
        ++ toString report.added.length ++ " · usunięto " ++ toString report.removed.length
        ++ " · odkryto " ++ toString report.discovered.length
        ++ (if persist then "" else " (bez zapisu)") ++ "[/dim]\n") =
      display (summary queue report persist) := by
  have htext : "  [dim]" ++ toString queue.queued.length ++ " w kolejce · dodano "
      ++ toString report.added.length ++ " · usunięto " ++ toString report.removed.length
      ++ " · odkryto " ++ toString report.discovered.length
      ++ (if persist then "" else " (bez zapisu)") ++ "[/dim]\n" =
        "  [dim]" ++ (counts queue report ++ note persist) ++ "[/dim]\n" := by
    simp only [counts, note, String.append_assoc]
  rw [htext]
  rfl

/-- A page is printed up to its last lines, or the console does not show what comes before them. -/
theorem run_printPage :
    (∃ shown why lines, ∀ persist desk,
      (printPage queue report persist).run desk = (.error (.unshown shown why), desk.say lines)) ∨
    ∃ lines, pageLines queue report = .ok lines ∧ ∀ persist desk,
      (printPage queue report persist).run desk =
        (display (summary queue report persist)).run (desk.say lines) := by
  let rows := queue.queued.map (queueRow queue report)
  have hpage (persist : Bool) (desk : Desk) : (printPage queue report persist).run desk =
      (display (.literal "") >>= fun _ =>
        display (.table queueColumns rows) >>= fun _ =>
          (report.removed.forM fun handle =>
            display (.styled ("  [red]usunięty:[/red] " ++ handle))) >>= fun _ =>
              display (summary queue report persist)).run desk := by
    rw [← print_summary]
    rfl
  simp only [hpage, run_bind, run_display (.literal ""), run_display (.table queueColumns rows)]
  unfold pageLines
  cases hblank : Console.render (.literal "") with
  | error why =>
      exact .inl ⟨_, why, [], fun _ desk => by rw [say_nil]⟩
  | ok blank =>
      cases htable : Console.render (.table queueColumns rows) with
      | error why =>
          exact .inl ⟨_, why, blank, fun _ desk => rfl⟩
      | ok table =>
          rcases run_forM_display
              (fun handle => Shown.styled ("  [red]usunięty:[/red] " ++ handle)) report.removed with
            ⟨handle, -, why, lines, -, hrun⟩ | ⟨removed, hremoved, hrun⟩
          · refine .inl ⟨.styled ("  [red]usunięty:[/red] " ++ handle), why,
              blank ++ table ++ lines, fun _ desk => ?_⟩
            simp only [hrun, say_say, List.append_assoc]
          · refine .inr ⟨blank ++ table ++ removed.flatten, ?_, fun _ desk => ?_⟩
            · simp only [hremoved, bind, Except.bind, pure, Except.pure]
            · simp only [hrun, say_say, List.append_assoc]

/-- The last lines are shown with the note and without it, or for one reason neither. -/
theorem alike_summary [LawfulConsole] :
    (∃ noted last, Console.render (summary queue report false) = .ok noted ∧
      Console.render (summary queue report true) = .ok last) ∨
    ∃ why, Console.render (summary queue report false) = .error why ∧
      Console.render (summary queue report true) = .error why := by
  have hwords : ∀ word ∈ [" w kolejce · dodano ", " · usunięto ", " · odkryto ", note false,
      note true], word.toList.all Console.isUnmarked = true := by
    decide
  simp only [List.forall_mem_cons, List.not_mem_nil, false_imp_iff, implies_true, and_true]
    at hwords
  obtain ⟨hqueued, htaken, hfound, hnote, hnone⟩ := hwords
  have hcounts : Console.Unmarked (counts queue report).toList := by
    simp only [counts, String.toList_append]
    have hnumber := Console.unmarked_number
    exact ((((((hnumber _).append (.of_all hqueued)).append (hnumber _)).append
      (.of_all htaken)).append (hnumber _)).append (.of_all hfound)).append (hnumber _)
  have hunmarked (persist : Bool)
      (h : (note persist).toList.all Console.isUnmarked = true) :
      (counts queue report ++ note persist).toList.all Console.isUnmarked = true := by
    rw [String.toList_append]
    exact List.all_eq_true.mpr (hcounts.append (.of_all h))
  have hne (persist : Bool) : counts queue report ++ note persist ≠ "" := by
    simp [counts]
  refine LawfulConsole.dimmed _ _ (hne false) (hne true) (hunmarked false hnote)
    (hunmarked true hnone) fun c hc => ?_
  -- the note is in ASCII
  have hascii : ∀ persist, c ∉ (note persist).toList := by
    intro persist hmem
    have hall : (note persist).toList.all (fun c => decide (c.toNat < 0x80)) = true := by
      cases persist <;> decide
    have hlow := List.all_eq_true.mp hall c hmem
    simp only [decide_eq_true_eq] at hlow
    omega
  simp only [String.toList_append, List.mem_append, hascii, or_false]

/-- A page is printed alike with the note and without it. -/
theorem rehearses_printPage
    [LawfulConsole]
    {first second : Desk}
    (hlines : first.lines = second.lines) :
    Rehearses ((printPage queue report false).run first)
      ((printPage queue report true).run second) := by
  rcases run_printPage queue report with ⟨shown, why, lines, hrun⟩ | ⟨lines, hpage, hrun⟩
  · rw [hrun, hrun]
    refine ⟨rfl, fun _ => ?_, fun hdone => ?_⟩
    · simp only [say, hlines]
    · cases hdone
  · rw [hrun, hrun, run_display, run_display]
    rcases alike_summary queue report with ⟨noted, last, hnoted, hlast⟩ | ⟨why, hnoted, hlast⟩
    · simp only [hnoted, hlast]
      refine ⟨trivial, fun hdone => absurd rfl hdone, fun _ => ?_⟩
      refine ⟨queue, report, first.lines, lines, noted, last, hpage, hnoted, hlast, ?_, ?_⟩
      · simp only [say]
      · simp only [say, hlines]
    · simp only [hnoted, hlast]
      refine ⟨rfl, fun _ => ?_, fun hdone => ?_⟩
      · simp only [say, hlines]
      · cases hdone

/-- No fault leaves the printing of a page. -/
theorem ne_fault_of_printPage
    (persist : Bool)
    (desk : Desk)
    (fault : Fault) :
    ((printPage queue report persist).run desk).1 ≠ .error (.fault fault) := by
  rcases run_printPage queue report with ⟨shown, why, lines, hrun⟩ | ⟨lines, -, hrun⟩
  · rw [hrun]
    exact fun h => nomatch h
  · rw [hrun, run_display]
    cases Console.render (summary queue report persist) <;> exact fun h => nomatch h

theorem talks_printPage (persist : Bool) :
    Talks (printPage queue report persist) := by
  rcases run_printPage queue report with ⟨shown, why, lines, hrun⟩ | ⟨lines, -, hrun⟩
  · exact ⟨_, _, hrun persist⟩
  · obtain ⟨result, more, hdisplay⟩ := talks_display (summary queue report persist)
    refine ⟨result, lines ++ more, fun desk => ?_⟩
    rw [hrun, hdisplay, say_say]

end Page

/-- Two runs that end alike before the page rehearse each other. -/
theorem rehearses_of_ending
    {ending : Ending}
    {first second : Desk}
    (hlines : first.lines = second.lines) :
    Rehearses (.error ending, first) (.error ending, second) := by
  refine ⟨ending.alike_self, fun _ => hlines, fun hdone => ?_⟩
  cases hdone

end Desk

end PageScripts
