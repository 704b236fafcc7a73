import PageScripts.Proofs.Name
import PageScripts.Proofs.Page.Handles

/-!
# Handles that are made of file names

A script element without an identifier of its own asks for the slug of its file's name.  A slug has only
characters that a handle may have, and so has a number behind it; so the handle that the script gets is
always one that would be accepted from an operator.

* `SlugForm.handleForm`: a text of the form of slugs follows the grammar of handles.
* `HandleForm.numbered`: with a number behind it, it still does.
* `Given.handleForm`, `handleForm_freeHandle`: so does the handle that is given.

**Result.**  `handles_of_file_names`: the form of slugs, and what follows for the scripts of a page.
-/

namespace PageScripts

open Text (SlugForm)

section Handles

theorem isAlphanum_of_isLower
    {c : Char}
    (h : c.isLower = true) :
    c.isAlphanum = true := by
  change (c.isUpper || c.isLower || c.isDigit) = true
  rw [h, Bool.or_true, Bool.true_or]

theorem isAlphanum_of_isDigit
    {c : Char}
    (h : c.isDigit = true) :
    c.isAlphanum = true := by
  rw [Char.isAlphanum, h, Bool.or_true]

theorem Text.SlugForm.handleForm
    {cs : List Char}
    (h : SlugForm cs) :
    HandleForm cs := by
  have hevened := h.evened
  refine ⟨hevened.nonempty, fun c hc => ?_⟩
  rcases hevened.chars c hc with hlower | hdigit | hdash
  · exact .inl (isAlphanum_of_isLower hlower)
  · exact .inl (isAlphanum_of_isDigit hdigit)
  · exact .inr (.inr hdash)

/-- A number behind a handle makes a handle. -/
theorem HandleForm.numbered
    {base : String}
    (h : HandleForm base.toList)
    (n : Nat) :
    HandleForm (Page.numberedHandle base n).toList := by
  have htext : (Page.numberedHandle base n).toList = base.toList ++ '-' :: Nat.toDigits 10 n := by
    simp [Page.numberedHandle]
  rw [htext]
  refine ⟨by simp, fun c hc => ?_⟩
  rcases List.mem_append.mp hc with hbase | htail
  · exact h.chars c hbase
  · rcases List.mem_cons.mp htail with hdash | hdigit
    · exact .inr (.inr hdash)
    · exact .inl (isAlphanum_of_isDigit (Nat.isDigit_of_mem_toDigits (by decide) (by decide) hdigit))

/-- What follows the grammar is taken for a handle. -/
theorem HandleForm.isHandle
    {s : String}
    (h : HandleForm s.toList) :
    isHandle s = true :=
  (isHandle_iff s).mpr (.inl h)

end Handles

namespace Page

open Markup (ScriptElement)

section Names

/-- A handle that follows the grammar is not spoilt by making it free. -/
theorem Given.handleForm
    {taken : List String}
    {asked handle : String}
    (h : Given taken asked handle)
    (hasked : HandleForm asked.toList) :
    HandleForm handle.toList := by
  cases h with
  | asked hfree =>
      exact hasked
  | numbered htaken hfirst =>
      exact hasked.numbered _

theorem handleForm_freeHandle
    {asked : String}
    (hasked : HandleForm asked.toList)
    (queue : RenderQueue) :
    HandleForm (freeHandle queue asked).toList := by
  unfold freeHandle
  split
  · exact hasked.numbered _
  · exact hasked

theorem handleForm_handleOfAddress (path : String) :
    HandleForm (handleOfAddress path).toList :=
  (Text.slugForm_slug _).handleForm

/-- An element without an identifier asks for the name of its file. -/
theorem baseHandle_of_anonymous
    {element : ScriptElement}
    (hid : handleOfId? (attr "id" element) = none)
    {src asked : String}
    (h : baseHandle element src = .ok asked) :
    ∃ address, Url.Address.parse src = .ok address ∧ asked = handleOfAddress address.path := by
  unfold baseHandle at h
  rw [hid] at h
  obtain ⟨address, haddress, hdone⟩ := ok_of_bind h
  exact ⟨address, haddress, (Except.ok.inj hdone).symm⟩

end Names

/-- Handles that are made of file names are well formed.
* The slug of a text is made of words of lower-case ASCII letters and digits with single dashes between
  them, it has 60 characters at most, and it is its own slug.
* Whatever handles a queue knows, the handle that a file name gives is one, with or without a number.
* So it is with every script of a page whose identifier tells no handle, by whatever reader of pages. -/
theorem handles_of_file_names :
    (∀ s, SlugForm (Text.slug s).toList ∧ (Text.slug s).length ≤ 60 ∧
      Text.slug (Text.slug s) = Text.slug s) ∧
    (∀ known path, isHandle (freeHandle known (handleOfAddress path)) = true) ∧
    ∀ reader html base queue, parse reader html base = .ok queue →
      ∃ elements, reader html = .ok elements ∧
        ∀ i element, (elements.filter isExecutable)[i]? = some element →
          handleOfId? (attr "id" element) = none →
          ∃ script address,
            queue.registered[i]? = some (script.handle, script) ∧
            Url.Address.parse script.src = .ok address ∧
            Given (queue.queued.take i) (handleOfAddress address.path) script.handle ∧
            isHandle script.handle = true := by
  refine ⟨fun s => ?_, fun known path => ?_, ?_⟩
  · have hform := Text.slugForm_slug s
    have hlength := Text.length_slug_le s
    exact ⟨hform, hlength, (Text.slug_eq_self_iff _).mpr ⟨hform, hlength⟩⟩
  · exact (handleForm_freeHandle (handleForm_handleOfAddress path) known).isHandle
  · intro reader html base queue hparse
    obtain ⟨elements, helements, hqueue⟩ := queueOf_of_parse hparse
    refine ⟨elements, helements, fun i element hi hid => ?_⟩
    obtain ⟨script, hscript, hentry⟩ := (entered_of_queueOf hqueue).entry i element hi
    obtain ⟨asked, hasked, hgiven⟩ := hentry.handle
    obtain ⟨address, haddress, rfl⟩ := baseHandle_of_anonymous hid hasked
    exact ⟨script, address, hscript, haddress, hgiven,
      (hgiven.handleForm (handleForm_handleOfAddress _)).isHandle⟩

/-- A page with two files whose names differ and have the same slug. -/
def slurredPage : String :=
  "<script src=a_b></script><script src=A.b>"

/-- The second script of that page gets a number. -/
theorem handles_of_file_names_slurred :
    ∃ queue elements element,
      parse Markup.reader slurredPage "http://e" = .ok queue ∧
      Markup.reader slurredPage = .ok elements ∧
      (elements.filter isExecutable)[1]? = some element ∧
      handleOfId? (attr "id" element) = none ∧
      ∃ script address,
        queue.registered[1]? = some (script.handle, script) ∧
        Url.Address.parse script.src = .ok address ∧
        Given (queue.queued.take 1) (handleOfAddress address.path) script.handle ∧
        isHandle script.handle = true ∧
        script.handle = "a-b-2" := by
  have hkeys : (parse Markup.reader slurredPage "http://e").toOption.map (·.registered.keys) =
      some ["a-b", "a-b-2"] := by
    decide +kernel
  have hids : (Markup.reader slurredPage).toOption.map
      (fun found => (found.filter isExecutable).map fun element => handleOfId? (attr "id" element)) =
      some [none, none] := by
    decide +kernel
  cases hparse : parse Markup.reader slurredPage "http://e" with
  | error fault =>
      rw [hparse] at hkeys
      cases hkeys
  | ok queue =>
      obtain ⟨elements, helements, hscripts⟩ := handles_of_file_names.2.2 _ _ _ queue hparse
      rw [hparse] at hkeys
      rw [helements] at hids
      have hkey := congrArg (·[1]?) (Option.some.inj hkeys)
      have hid := congrArg (·[1]?) (Option.some.inj hids)
      simp only [Listing.keys, List.getElem?_map] at hkey hid
      obtain ⟨element, helement, hnone⟩ := Option.map_eq_some_iff.mp hid
      obtain ⟨script, address, hscript, haddress, hgiven, hhandle⟩ := hscripts 1 element helement hnone
      rw [hscript] at hkey
      exact ⟨queue, elements, element, rfl, helements, helement, hnone, script, address, hscript,
        haddress, hgiven, hhandle, Option.some.inj hkey⟩

end Page
end PageScripts
