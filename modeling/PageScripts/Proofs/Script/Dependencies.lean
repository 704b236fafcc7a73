import PageScripts.Proofs.Script.Lossless
import PageScripts.Proofs.Text.Pieces

/-!
# The two forms of dependencies

The scripts that a script depends on are stored as a list of handles or as a text with commas between
them, and a script that is moved changes from one form to the other.

* `parseDependencies_joined`: handles without a comma are read from the text that joins them, with or
  without blanks behind the commas, as they are from the list of them.
* `comma_not_mem_of_text`: no handle that is read from a text has a comma.
* `parseDependencies_again`: the handles that were read are read again from the list of them.

**Result.**  `dependency_forms_agree`: the two forms list the same handles just if none has a comma, and
what was read is read back in either form.
-/

namespace PageScripts

section Handles

/-- Handles that are trimmed to the same texts count alike. -/
theorem tidyHandles_congr
    {handles others : List String}
    (h : handles.map Text.trim = others.map Text.trim) :
    tidyHandles handles = tidyHandles others := by
  rw [tidyHandles, h, tidyHandles]

theorem tidy_of_mem_tidyHandles
    {handles : List String}
    {name : String}
    (h : name ∈ tidyHandles handles) :
    name ≠ "" ∧ Text.trim name = name := by
  obtain ⟨hmem, hname⟩ := List.mem_filter.mp h
  obtain ⟨raw, -, rfl⟩ := List.mem_map.mp hmem
  exact ⟨bne_iff_ne.mp hname, Text.trim_trim raw⟩

/-- A handle with a comma is not left out, and trimming leaves the comma. -/
theorem exists_comma_of_mem
    {handles : List String}
    {name : String}
    (hname : name ∈ handles)
    (hcomma : ',' ∈ name.toList) :
    ∃ kept ∈ tidyHandles handles, ',' ∈ kept.toList := by
  have hkept : ',' ∈ (Text.trim name).toList := by
    rw [Text.toList_trim]
    exact Text.mem_trimBy_of_not Text.isBlank hcomma (by decide)
  refine ⟨Text.trim name, List.mem_filter.mpr ⟨List.mem_map_of_mem hname, ?_⟩, hkept⟩
  refine bne_iff_ne.mpr fun hempty => ?_
  rw [hempty] at hkept
  cases hkept

end Handles

section Texts

theorem comma_not_mem_of_blank
    {blanks : List Char}
    (hblanks : ∀ c ∈ blanks, Text.isBlank c = true) :
    ',' ∉ blanks :=
  fun hcomma => absurd (hblanks ',' hcomma) (by decide)

theorem trim_ofList_append_of_blank
    {lead : List Char}
    (hlead : ∀ c ∈ lead, Text.isBlank c = true)
    (name : String) :
    Text.trim (String.ofList (lead ++ name.toList)) = Text.trim name := by
  unfold Text.trim
  rw [String.toList_ofList, Text.trimChars_append_of_blank hlead]

/-- The handles in a text that joins them with a comma and some blanks. -/
theorem parseDependencies_joined
    {sep : String}
    {blanks : List Char}
    (hsep : sep.toList = ',' :: blanks)
    (hblanks : ∀ c ∈ blanks, Text.isBlank c = true)
    {names : List String}
    (hfree : ∀ name ∈ names, ',' ∉ name.toList) :
    parseDependencies (.str (sep.intercalate names)) = tidyHandles names := by
  cases names with
  | nil =>
      exact parseDependencies_empty
  | cons name rest =>
      have hchars : ∀ part ∈ name.toList :: rest.map String.toList, ',' ∉ part := by
        rw [← List.map_cons, List.forall_mem_map]
        exact hfree
      rw [parseDependencies, Text.split, String.toList_intercalate, hsep, List.map_cons,
        Text.pieces_intercalate (comma_not_mem_of_blank hblanks) hchars]
      refine tidyHandles_congr ?_
      rw [List.map_cons, List.map_cons, List.map_cons, String.ofList_toList, List.map_map,
        List.map_map, List.map_map]
      exact congrArg _ (List.map_congr_left fun other _ => trim_ofList_append_of_blank hblanks other)

theorem comma_not_mem_of_text
    {s name : String}
    (h : name ∈ parseDependencies (.str s)) :
    ',' ∉ name.toList := by
  obtain ⟨raw, hraw, rfl⟩ := List.mem_map.mp (List.mem_filter.mp h).1
  obtain ⟨piece, hpiece, rfl⟩ := List.mem_map.mp hraw
  rw [Text.toList_trim, String.toList_ofList]
  exact fun hcomma =>
    Text.not_mem_of_mem_pieces ',' s.toList piece hpiece (Text.trimChars_subset piece hcomma)

/-- The handles that a value lists are read again from the list of them. -/
theorem parseDependencies_again (value : Json) :
    parseDependencies (.arr ((parseDependencies value).map .str)) = parseDependencies value := by
  rw [parseDependencies_list, tidyHandles_parseDependencies]

/-- Both forms list the same handles just if no handle has a comma. -/
theorem parseDependencies_list_eq_text_iff (names : List String) :
    parseDependencies (.arr (names.map .str)) = parseDependencies (.str (",".intercalate names)) ↔
      ∀ name ∈ names, ',' ∉ name.toList := by
  rw [parseDependencies_list]
  constructor
  · intro hsame name hname hcomma
    obtain ⟨kept, hkept, hin⟩ := exists_comma_of_mem hname hcomma
    rw [hsame] at hkept
    exact comma_not_mem_of_text hkept hin
  · intro hfree
    exact (parseDependencies_joined rfl (List.forall_mem_nil _) hfree).symm

end Texts

/-- Dependencies are the same in either form.
* The list of some names and the text that joins them with commas list the same handles just if no name
  has a comma.
* The handles in a text are not empty, have no blanks at their ends and no comma; joined with a comma
  and a blank, they are read back.
* The handles that any value lists, a text or a list of whatever values, are read back from the list of
  them. -/
theorem dependency_forms_agree :
    (∀ names : List String,
      parseDependencies (.arr (names.map .str)) = parseDependencies (.str (",".intercalate names)) ↔
        ∀ name ∈ names, ',' ∉ name.toList) ∧
    (∀ s,
      (∀ name ∈ parseDependencies (.str s),
        name ≠ "" ∧ Text.trim name = name ∧ ',' ∉ name.toList) ∧
      parseDependencies (.str (", ".intercalate (parseDependencies (.str s)))) =
        parseDependencies (.str s)) ∧
    ∀ value,
      parseDependencies (.arr ((parseDependencies value).map .str)) = parseDependencies value := by
  refine ⟨parseDependencies_list_eq_text_iff, fun s => ⟨fun name hname => ?_, ?_⟩,
    parseDependencies_again⟩
  · obtain ⟨hsome, htrim⟩ := tidy_of_mem_tidyHandles hname
    exact ⟨hsome, htrim, comma_not_mem_of_text hname⟩
  · have hblank : ∀ c ∈ [' '], Text.isBlank c = true :=
      List.forall_mem_singleton.mpr (by decide)
    rw [parseDependencies_joined rfl hblank fun name hname => comma_not_mem_of_text hname,
      tidyHandles_parseDependencies]

/-- Three names, one of them empty and one with a no-break space behind it, in a list and in a text. -/
theorem dependency_forms_agree_untidy :
    parseDependencies (.arr [.str " jquery", .str "", .str "lodash\u00A0"]) = ["jquery", "lodash"] ∧
    parseDependencies (.str " jquery,,lodash\u00A0") = ["jquery", "lodash"] ∧
    parseDependencies (.str "jquery, lodash") = ["jquery", "lodash"] ∧
    ',' ∉ "lodash".toList := by
  obtain ⟨hforms, htexts, -⟩ := dependency_forms_agree
  have hlist : parseDependencies (.arr [.str " jquery", .str "", .str "lodash\u00A0"]) =
      ["jquery", "lodash"] := by
    decide +kernel
  have htext : parseDependencies (.str " jquery,,lodash\u00A0") = ["jquery", "lodash"] :=
    ((hforms [" jquery", "", "lodash\u00A0"]).mpr (by decide)).symm.trans hlist
  obtain ⟨hnames, hjoined⟩ := htexts " jquery,,lodash\u00A0"
  rw [htext] at hnames hjoined
  exact ⟨hlist, htext, hjoined, (hnames "lodash" (by decide)).2.2⟩

end PageScripts
