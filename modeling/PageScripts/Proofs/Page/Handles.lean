import Mathlib.Data.List.Induction
import Mathlib.Data.List.Perm.Subperm
import PageScripts.Markup.Reader
import PageScripts.Page
import PageScripts.Proofs.Queue
import PageScripts.Proofs.Result
import PageScripts.Proofs.Text.Slug
import PageScripts.Proofs.Url.Join

/-!
# Every script of a page gets a handle of its own

Two elements of a page may ask for the same handle, and the handle that is given to the second one may
be what a third one asks for.  As the queue passes over a script whose handle it knows, each element
has to get a handle that no earlier one has.

* `FirstFree`: the number by which a handle that is taken becomes one that is not; `exists_firstFree`:
  there is such a number, whatever a queue knows.
* `Given`: the handle that an element gets; `given_freeHandle`: it is the one that is found.
* `AddressOf`: the address that is meant by the source of an element.
* `EntryOf`: what is registered for an element, given the handles before it; `Entered`: the queue has
  one entry for each element.
* `entered_concat`: one more element makes one more entry.

**Result.**  `scripts_of_page`: the queue of a page has one entry for each executable element, whatever
elements a reader of pages finds.
-/

namespace PageScripts

namespace Page

open Markup (ScriptElement)

section Defs

/-- The number is the first one from `start` on whose handle is not taken. -/
structure FirstFree
    (taken : String → Bool)
    (base : String)
    (start n : Nat) : Prop where
  le : start ≤ n
  free : taken (numberedHandle base n) = false
  least : ∀ m, start ≤ m → m < n → taken (numberedHandle base m) = true

/-- The handle for an element that asks for one, when some are taken: the handle itself if it is free,
or else with the first number from two on that makes it so. -/
inductive Given
    (taken : List String)
    (asked : String) :
    String → Prop
  | asked
      (hfree : asked ∉ taken) :
      Given taken asked asked
  | numbered
      {n : Nat}
      (htaken : asked ∈ taken)
      (hfirst : FirstFree taken.contains asked 2 n) :
      Given taken asked (numberedHandle asked n)

/-- The address that is meant by a source on a page: what it leads to from the address of the page.  On
a page of the web it is a full address. -/
structure AddressOf (base src address : String) : Prop where
  resolves : Url.Resolves base src address
  full :
    ∀ b, Url.Address.parse base = .ok b → b.scheme ∈ ["http", "https"] → b.location ≠ "" →
      Url.Full b src address

/-- What is registered for an element when some handles are taken. -/
structure EntryOf
    (base : String)
    (taken : List String)
    (element : ScriptElement)
    (script : RegisteredScript) : Prop where
  address :
    ∃ address, AddressOf base (Text.trim (attr "src" element)) address ∧
      Url.splitVersion address = .ok (script.src, script.version)
  handle :
    ∃ asked, baseHandle element script.src = .ok asked ∧ Given taken asked script.handle
  deps : script.deps = []
  inFooter : script.inFooter = !element.inHead
  strategy : script.strategy = strategyOf element

/-- The queue has one entry for each of the elements, in order, and all of them are loaded.  No handle
is empty, and none is there twice. -/
structure Entered
    (base : String)
    (elements : List ScriptElement)
    (queue : RenderQueue) : Prop where
  loaded : queue.queued = queue.registered.keys
  distinct : queue.queued.Nodup
  titled : "" ∉ queue.queued
  length : queue.registered.length = elements.length
  entry :
    ∀ i element, elements[i]? = some element →
      ∃ script, queue.registered[i]? = some (script.handle, script) ∧
        EntryOf base (queue.queued.take i) element script

end Defs

section Numbers

variable {taken : String → Bool}
variable {base : String}

theorem numberedHandle_injective (base : String) :
    Function.Injective (numberedHandle base) := by
  intro m n h
  have hdigits := (String.append_right_inj (base ++ "-")).mp h
  rw [Nat.toString_eq_ofList_toDigits, Nat.toString_eq_ofList_toDigits, String.ofList_inj] at hdigits
  rw [← Nat.ofDigitChars_toDigits (b := 10) (n := m) (by decide) (by decide), hdigits,
    Nat.ofDigitChars_toDigits (by decide) (by decide)]

theorem numberedHandle_ne_empty
    (base : String)
    (n : Nat) :
    numberedHandle base n ≠ "" := by
  intro h
  have hlist := congrArg String.toList h
  simp [numberedHandle] at hlist

/-- One more number than there are names has a handle that is none of them. -/
theorem exists_number_not_mem
    (names : List String)
    (base : String)
    (start : Nat) :
    ∃ n, start ≤ n ∧ n < start + (names.length + 1) ∧ numberedHandle base n ∉ names := by
  by_contra hnone
  -- Else the handles of these numbers, which all differ, would be among fewer names.
  have hall : ∀ n ∈ List.range' start (names.length + 1), numberedHandle base n ∈ names := by
    intro n hn
    obtain ⟨hle, hlt⟩ := List.mem_range'_1.mp hn
    by_contra hfree
    exact hnone ⟨n, hle, hlt, hfree⟩
  have hnodup : ((List.range' start (names.length + 1)).map (numberedHandle base)).Nodup :=
    (List.nodup_range' 1).map (numberedHandle_injective base)
  have hsubset : (List.range' start (names.length + 1)).map (numberedHandle base) ⊆ names := by
    intro handle hmem
    obtain ⟨n, hn, rfl⟩ := List.mem_map.mp hmem
    exact hall n hn
  have hlength := (List.subperm_of_subset hnodup hsubset).length_le
  rw [List.length_map, List.length_range'] at hlength
  omega

/-- If there is a free number among those that are tried, the first one is found. -/
theorem firstFree_spec
    {fuel start : Nat}
    (hfree : ∃ n, start ≤ n ∧ n < start + fuel ∧ taken (numberedHandle base n) = false) :
    FirstFree taken base start (firstFree taken base fuel start) := by
  induction fuel generalizing start with
  | zero =>
      obtain ⟨n, hle, hlt, -⟩ := hfree
      omega
  | succ fuel ih =>
      rw [firstFree]
      by_cases htaken : taken (numberedHandle base start) = true
      · rw [if_pos htaken]
        have hlater : ∃ n, start + 1 ≤ n ∧ n < start + 1 + fuel ∧
            taken (numberedHandle base n) = false := by
          obtain ⟨n, hle, hlt, hn⟩ := hfree
          have hne : n ≠ start := by
            rintro rfl
            rw [htaken] at hn
            cases hn
          exact ⟨n, by omega, by omega, hn⟩
        have hrest := ih hlater
        refine ⟨Nat.le_of_succ_le hrest.le, hrest.free, fun m hle hlt => ?_⟩
        rcases Nat.eq_or_lt_of_le hle with rfl | hgt
        · exact htaken
        · exact hrest.least m hgt hlt
      · rw [if_neg htaken]
        exact ⟨Nat.le_refl start, Bool.not_eq_true _ ▸ htaken, fun m hle hlt => by omega⟩

/-- The numbers that are tried are enough. -/
theorem firstFree_freeHandle
    (queue : RenderQueue)
    (base : String) :
    FirstFree queue.has base 2
      (firstFree queue.has base (queue.registered.length + queue.queued.length + 1) 2) := by
  apply firstFree_spec
  obtain ⟨n, hle, hlt, hn⟩ :=
    exists_number_not_mem (queue.registered.keys ++ queue.queued) base 2
  refine ⟨n, hle, ?_, ?_⟩
  · simpa [Listing.keys] using hlt
  · rw [← Bool.not_eq_true, RenderQueue.has_iff_mem]
    exact hn

/-- Whatever a queue knows, some number makes a handle that it does not know. -/
theorem exists_firstFree
    (queue : RenderQueue)
    (base : String) :
    ∃ n, FirstFree queue.has base 2 n :=
  ⟨_, firstFree_freeHandle queue base⟩

/-- The handle that is given when all handles that the queue knows are loaded. -/
theorem given_freeHandle
    {queue : RenderQueue}
    (hloaded : queue.queued = queue.registered.keys)
    (asked : String) :
    Given queue.queued asked (freeHandle queue asked) := by
  have hhas (handle : String) : queue.has handle = queue.queued.contains handle := by
    rw [Bool.eq_iff_iff, RenderQueue.has_iff_mem, List.contains_iff_mem, List.mem_append, ← hloaded, or_self]
  have hfun : (fun handle => queue.has handle) = queue.queued.contains := funext hhas
  have hfirst := firstFree_freeHandle queue asked
  rw [hfun] at hfirst
  unfold freeHandle
  dsimp only
  rw [hfun, hhas]
  by_cases htaken : queue.queued.contains asked = true
  · rw [if_pos htaken]
    exact .numbered (List.contains_iff_mem.mp htaken) hfirst
  · rw [if_neg htaken]
    exact .asked (mt List.contains_iff_mem.mpr htaken)

theorem Given.not_mem
    {taken : List String}
    {asked handle : String}
    (h : Given taken asked handle) :
    handle ∉ taken := by
  cases h with
  | asked hfree =>
      exact hfree
  | numbered htaken hfirst =>
      intro hmem
      have hfree := hfirst.free
      rw [List.contains_iff_mem.mpr hmem] at hfree
      cases hfree

theorem Given.ne_empty
    {taken : List String}
    {asked handle : String}
    (h : Given taken asked handle)
    (hasked : asked ≠ "") :
    handle ≠ "" := by
  cases h with
  | asked hfree =>
      exact hasked
  | numbered htaken hfirst =>
      exact numberedHandle_ne_empty asked _

end Numbers

section Asking

theorem ne_empty_of_handleOfId?
    {id handle : String}
    (h : handleOfId? id = some handle) :
    handle ≠ "" := by
  unfold handleOfId? at h
  dsimp only at h
  split at h
  · next hlong =>
      split at h
      · cases h
      · obtain rfl := Option.some.inj h
        rw [ne_eq, String.ofList_eq_empty_iff, List.take_eq_nil_iff]
        rintro (hzero | hempty)
        · omega
        · rw [hempty] at hlong
          exact absurd hlong.1 (Nat.not_lt_zero _)
  · cases h

/-- No element asks for the empty handle. -/
theorem baseHandle_ne_empty
    {element : ScriptElement}
    {src asked : String}
    (h : baseHandle element src = .ok asked) :
    asked ≠ "" := by
  unfold baseHandle at h
  split at h
  · next handle hid =>
      cases h
      exact ne_empty_of_handleOfId? hid
  · obtain ⟨address, -, hdone⟩ := ok_of_bind h
    have hslug : handleOfAddress address.path = asked := Except.ok.inj hdone
    rw [← hslug]
    exact Text.slug_ne_empty _

end Asking

section Entering

variable {base : String}
variable {queue next : RenderQueue}
variable {element : ScriptElement}

theorem addressOf_of_join
    {src address : String}
    (h : Url.join base src = .ok address) :
    AddressOf base src address where
  resolves := Url.resolves_of_join h
  full := by
    intro b hb hscheme hlocation
    refine Url.full_of_resolves hb ?_ hlocation (Url.resolves_of_join h)
    rcases List.mem_pair.mp hscheme with hsame | hsame <;> rw [hsame] <;> decide

/-- One more element makes one more entry, at the end. -/
theorem addElement_ok
    (hloaded : queue.queued = queue.registered.keys)
    (h : addElement base queue element = .ok next) :
    ∃ script, EntryOf base queue.queued element script ∧ script.handle ∉ queue.queued ∧
      script.handle ≠ "" ∧
      next =
        { registered := queue.registered ++ [(script.handle, script)]
          queued := queue.queued ++ [script.handle] } := by
  obtain ⟨address, haddress, hrest⟩ := ok_of_bind h
  obtain ⟨⟨src, version⟩, hversion, hrest⟩ := ok_of_bind hrest
  obtain ⟨asked, hasked, hdone⟩ := ok_of_bind hrest
  have hgiven := given_freeHandle hloaded asked
  obtain ⟨script, hscript⟩ : ∃ script : RegisteredScript, script =
      { handle := freeHandle queue asked, src, version, inFooter := !element.inHead } := ⟨_, rfl⟩
  have hhandle : script.handle = freeHandle queue asked := by rw [hscript]
  rw [← hhandle] at hgiven
  have hnext : next = ((queue.register script).setStrategy script.handle
      (strategyOf element).word).enqueue script.handle := by
    rw [hscript]
    exact (Except.ok.inj hdone).symm
  have hfresh : script.handle ∉ queue.registered.keys := hloaded ▸ hgiven.not_mem
  refine ⟨{ script with declared := RenderQueue.declaration (strategyOf element).word },
    ⟨⟨address, addressOf_of_join haddress, ?_⟩, ⟨asked, ?_, hgiven⟩, ?_, ?_, RenderQueue.strategy_declared _ _⟩,
    hgiven.not_mem, hgiven.ne_empty (baseHandle_ne_empty hasked), ?_⟩
  · rw [hversion, hscript]
  · rw [← hasked, hscript]
  · rw [hscript]
  · rw [hscript]
  · rw [hnext, RenderQueue.declared_of_new hfresh]
    refine RenderQueue.enqueue_of_new ?_ hgiven.not_mem
    simp [Listing.keys]

theorem entered_nil (base : String) :
    Entered base [] {} where
  loaded := rfl
  distinct := List.nodup_nil
  titled := List.not_mem_nil
  length := rfl
  entry := by
    intro i element h
    cases h

theorem entered_concat
    {elements : List ScriptElement}
    (entered : Entered base elements queue)
    (h : addElement base queue element = .ok next) :
    Entered base (elements ++ [element]) next := by
  obtain ⟨script, hentry, hnew, htitled, rfl⟩ := addElement_ok entered.loaded h
  have hcount : queue.queued.length = elements.length := by
    rw [entered.loaded, Listing.keys, List.length_map, entered.length]
  refine ⟨?_, ?_, ?_, ?_, ?_⟩
  · simp [Listing.keys, entered.loaded]
  · rw [List.nodup_append]
    refine ⟨entered.distinct, List.nodup_singleton _, ?_⟩
    rintro handle hold _ hlast rfl
    rw [List.mem_singleton.mp hlast] at hold
    exact hnew hold
  · rw [List.mem_append, List.mem_singleton, not_or]
    exact ⟨entered.titled, Ne.symm htitled⟩
  · simp [entered.length]
  · intro i other hother
    rcases Nat.lt_trichotomy i elements.length with hlt | rfl | hgt
    · rw [List.getElem?_append_left hlt] at hother
      obtain ⟨known, hknown, hof⟩ := entered.entry i other hother
      refine ⟨known, ?_, ?_⟩
      · rw [List.getElem?_append_left (entered.length.symm ▸ hlt), hknown]
      · rwa [List.take_append_of_le_length (by omega)]
    · rw [List.getElem?_concat_length] at hother
      obtain rfl := Option.some.inj hother
      refine ⟨script, ?_, ?_⟩
      · rw [← entered.length, List.getElem?_concat_length]
      · rwa [← hcount, List.take_left]
    · rw [List.getElem?_eq_none (by simp; omega)] at hother
      cases hother

/-- The elements that are queued, one by one. -/
theorem entered_of_queueOf
    {elements : List ScriptElement}
    (h : elements.foldlM (addElement base) {} = .ok queue) :
    Entered base elements queue := by
  induction elements using List.reverseRecOn generalizing queue with
  | nil =>
      cases h
      exact entered_nil base
  | append_singleton done element ih =>
      rw [List.foldlM_append] at h
      obtain ⟨before, hbefore, hlast⟩ := ok_of_bind h
      rw [List.foldlM_cons] at hlast
      obtain ⟨after, hafter, hdone⟩ := ok_of_bind hlast
      cases hdone
      exact entered_concat (ih hbefore) hafter

end Entering

/-- The types of the scripts that are executed. -/
theorem isExecutable_eq :
    isExecutable = fun element =>
      decide (Text.lower (Text.trim (attr "type" element)) ∈
        ["", "text/javascript", "application/javascript", "module"]) := by
  funext element
  rw [Bool.eq_iff_iff]
  simp [isExecutable, scriptTypes]

/-- No script of a page is lost, and no two become one.  Let a reader of pages be given.
* Whatever handles a queue knows, and whatever handle is asked for, some number from two on makes it a
  handle that the queue does not know; so the search for the first one ends.
* The queue of a page has one entry for each of the elements that are read off it whose type is empty or
  that of a script, in order: with its own address, its own version, and a handle that is not empty and
  that no other one has. -/
theorem scripts_of_page
    (reader : Reader)
    (html base : String) :
    (∀ known asked, ∃ n, FirstFree (RenderQueue.has · known) asked 2 n) ∧
    ∀ queue, parse reader html base = .ok queue →
      ∃ elements, reader html = .ok elements ∧
        Entered base
          (elements.filter fun element =>
            Text.lower (Text.trim (attr "type" element)) ∈
              ["", "text/javascript", "application/javascript", "module"])
          queue := by
  refine ⟨exists_firstFree, ?_⟩
  intro queue h
  obtain ⟨elements, helements, hqueue⟩ := queueOf_of_parse h
  rw [queueOf, isExecutable_eq] at hqueue
  exact ⟨elements, helements, entered_of_queueOf hqueue⟩

/-- A page whose third script asks for a handle that is taken, when the first number makes one that is
taken too. -/
def crowdedPage : String :=
  "<script id=a-2-js src=x></script><script src=a></script><script src=b/a>"

theorem scripts_of_page_crowded :
    ∃ queue elements,
      parse Markup.reader crowdedPage "https://e.com" = .ok queue ∧
      queue.queued = ["a-2", "a", "a-3"] ∧
      queue.registered.map (·.2.src) = ["https://e.com/x", "https://e.com/a", "https://e.com/b/a"] ∧
      Markup.reader crowdedPage = .ok elements ∧
      Entered "https://e.com"
        (elements.filter fun element =>
          Text.lower (Text.trim (attr "type" element)) ∈
            ["", "text/javascript", "application/javascript", "module"])
        queue := by
  have hqueue : (parse Markup.reader crowdedPage "https://e.com").toOption.map
        (fun queue => (queue.queued, queue.registered.map (·.2.src))) =
      some (["a-2", "a", "a-3"], ["https://e.com/x", "https://e.com/a", "https://e.com/b/a"]) := by
    decide +kernel
  cases hparse : parse Markup.reader crowdedPage "https://e.com" with
  | error fault =>
      rw [hparse] at hqueue
      cases hqueue
  | ok queue =>
      rw [hparse] at hqueue
      obtain ⟨hqueued, hsources⟩ := Prod.mk.inj (Option.some.inj hqueue)
      obtain ⟨elements, helements, entered⟩ :=
        (scripts_of_page Markup.reader crowdedPage "https://e.com").2 queue hparse
      exact ⟨queue, elements, rfl, hqueued, hsources, helements, entered⟩

end Page
end PageScripts
