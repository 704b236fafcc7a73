import PageScripts.Proofs.Text.Blank
import PageScripts.Proofs.Text.Pieces
import PageScripts.Proofs.Url.Address

/-!
# Addresses are read back from their texts

The text of an address puts its parts one after another, each behind the mark by which it is found when
the text is read.  A part that held a mark of a later one would be cut in another place.

* `Plain`: no part of an address holds such a mark; `plain_of_parse`: every address that is read is such.
* `Hosted`: the plain addresses with a location; `hosted_of_parse`: every address that is read is such, if
  it has a location.
* `toList_text`: the parts in the text of such an address.

**Result.**  `parse_text`: the text is read as the address.
-/

namespace PageScripts
namespace Url

section Defs

/-- The text is a scheme as it is read: a letter and what may follow it, in lower case. -/
structure IsScheme (cs : List Char) : Prop where
  starts : ∃ c rest, cs = c :: rest ∧ isLetter c = true
  chars : ∀ c ∈ cs, isSchemeChar c = true
  lower : cs.map Char.toLower = cs

/-- No part of the address holds the mark of a later one, nor anything that does not count. -/
structure Address.Plain (a : Address) : Prop where
  path : '?' ∉ a.path.toList ∧ '#' ∉ a.path.toList
  query : '#' ∉ a.query.toList
  counted :
    ∀ part ∈ [a.location, a.path, a.query, a.fragment], counted part.toList = part.toList

/-- The address has a location, and no part of it holds a mark that would be taken for that of another
part, nor anything that does not count. -/
structure Address.Hosted (a : Address) : Prop extends Address.Plain a where
  hosted : a.location ≠ ""
  scheme : a.scheme = "" ∨ IsScheme a.scheme.toList
  location : ∀ c ∈ a.location.toList, endsLocation c = false
  brackets : checkBrackets a.location.toList = .ok ()
  undisguised : hasDisguisedMark a.location.toList = false
  rooted : a.path = "" ∨ a.path.toList.head? = some '/'

/-- The scheme in front of its colon, if there is one. -/
def schemeText (a : Address) : List Char :=
  if a.scheme = "" then [] else a.scheme.toList ++ [':']

/-- What follows the location in the text of an address. -/
def tailText (a : Address) : List Char :=
  a.path.toList ++ Text.marked '?' a.query.toList ++ Text.marked '#' a.fragment.toList

end Defs

section Chars

theorem lt_of_isSchemeChar
    {c : Char}
    (h : isSchemeChar c = true) :
    c.toNat < 128 := by
  simp only [isSchemeChar, isLetter, Bool.or_eq_true, Bool.and_eq_true, decide_eq_true_eq,
    beq_iff_eq, Char.le_def, UInt32.le_iff_toNat_le] at h
  rcases h with ((((⟨-, hhigh⟩ | ⟨-, hhigh⟩) | ⟨-, hhigh⟩) | rfl) | rfl) | rfl
  · exact Nat.lt_of_le_of_lt hhigh (by decide)
  · exact Nat.lt_of_le_of_lt hhigh (by decide)
  · exact Nat.lt_of_le_of_lt hhigh (by decide)
  · decide
  · decide
  · decide

/-- Putting a scheme into lower case leaves it a scheme. -/
theorem toLower_of_isSchemeChar
    {c : Char}
    (h : isSchemeChar c = true) :
    isSchemeChar c.toLower = true ∧ c.toLower.toLower = c.toLower ∧
      (isLetter c = true → isLetter c.toLower = true) := by
  have hall := Text.forall_ascii
    (fun c => !isSchemeChar c ||
      (isSchemeChar c.toLower && c.toLower.toLower == c.toLower &&
        (!isLetter c || isLetter c.toLower)))
    (by decide +kernel) (lt_of_isSchemeChar h)
  simpa [h, and_assoc, imp_iff_not_or] using hall

end Chars

section Reading

theorem counted_eq_self_iff (cs : List Char) :
    counted cs = cs ↔ ∀ c ∈ cs, c ≠ '\t' ∧ c ≠ '\r' ∧ c ≠ '\n' := by
  rw [counted, List.filter_eq_self]
  simp [and_assoc]

theorem counted_clean (cs : List Char) :
    counted (clean cs) = clean cs := by
  rw [counted, clean, List.filter_filter]
  simp only [Bool.and_self]

theorem isScheme_of_takeScheme
    {cs scheme rest : List Char}
    (h : takeScheme cs = (scheme, rest))
    (hscheme : scheme ≠ []) :
    IsScheme scheme := by
  unfold takeScheme at h
  split at h
  · next c head after hcut =>
      split at h
      · next hchars =>
          obtain ⟨rfl, -⟩ := Prod.mk.inj h
          obtain ⟨hletter, hhead⟩ := Bool.and_eq_true_iff.mp hchars
          have hall : ∀ d ∈ c :: head, isSchemeChar d = true :=
            List.forall_mem_cons.mpr ⟨by simp [isSchemeChar, hletter], List.all_eq_true.mp hhead⟩
          refine ⟨⟨c.toLower, head.map Char.toLower, rfl, ?_⟩, ?_, ?_⟩
          · exact (toLower_of_isSchemeChar (hall c List.mem_cons_self)).2.2 hletter
          · intro d hd
            obtain ⟨e, he, rfl⟩ := List.mem_map.mp hd
            exact (toLower_of_isSchemeChar (hall e he)).1
          · rw [List.map_map]
            exact List.map_congr_left fun d hd => (toLower_of_isSchemeChar (hall d hd)).2.1
      · cases h
        exact absurd rfl hscheme
  · cases h
    exact absurd rfl hscheme

/-- What follows a scheme is made of characters of the text. -/
theorem mem_of_takeScheme
    {cs : List Char}
    {c : Char}
    (hc : c ∈ (takeScheme cs).2) :
    c ∈ cs := by
  unfold takeScheme at hc
  split at hc
  · next first head after hcut =>
      split at hc
      · rw [Text.eq_of_cutFirst hcut]
        exact List.mem_append_right _ (List.mem_cons_of_mem ':' hc)
      · exact hc
  · exact hc

/-- The query and the fragment of an address, as they are read off its text, and what is asked of its
location. -/
theorem ending_of_parse
    {s : String}
    {a : Address}
    (h : Address.parse s = .ok a) :
    a.query.toList = (Text.cutFirst '?' (Text.cutFirst '#' (located s).2).1).2.getD [] ∧
    a.fragment.toList = (Text.cutFirst '#' (located s).2).2.getD [] ∧
    checkBrackets a.location.toList = .ok () ∧
    hasDisguisedMark a.location.toList = false := by
  rw [parse_eq] at h
  obtain ⟨⟨⟩, hbrackets, hrest⟩ := ok_of_bind h
  split at hrest
  · cases hrest
  · next hplain =>
      cases hrest
      simp only [String.toList_ofList, true_and]
      exact ⟨hbrackets, Bool.eq_false_iff.mpr hplain⟩

/-- The location and what follows it are made of characters that count. -/
theorem counted_located (s : String) :
    counted (located s).1 = (located s).1 ∧ counted (located s).2 = (located s).2 := by
  have hschemed : ∀ c ∈ (schemed s).2, c ≠ '\t' ∧ c ≠ '\r' ∧ c ≠ '\n' := fun c hc =>
    (counted_eq_self_iff _).mp (counted_clean s.toList) c (mem_of_takeScheme hc)
  simp only [counted_eq_self_iff]
  by_cases hlocation : (located s).1 = []
  · refine ⟨by simp [hlocation], fun c hc => hschemed c ?_⟩
    unfold located takeLocation at hc
    split at hc
    · next rest hslashes =>
        rw [hslashes]
        exact List.mem_cons_of_mem _ (List.mem_cons_of_mem _ ((List.dropWhile_suffix _).subset hc))
    · exact hc
  · obtain ⟨hwhole, -, -⟩ :
        (schemed s).2 = '/' :: '/' :: ((located s).1 ++ (located s).2) ∧ _ :=
      eq_of_takeLocation rfl hlocation
    have hall : ∀ c ∈ (located s).1 ++ (located s).2, c ≠ '\t' ∧ c ≠ '\r' ∧ c ≠ '\n' := by
      intro c hc
      refine hschemed c ?_
      rw [hwhole]
      exact List.mem_cons_of_mem _ (List.mem_cons_of_mem _ hc)
    exact ⟨fun c hc => hall c (List.mem_append_left _ hc),
      fun c hc => hall c (List.mem_append_right _ hc)⟩

/-- Every address that is read is plain. -/
theorem plain_of_parse
    {s : String}
    {a : Address}
    (h : Address.parse s = .ok a) :
    a.Plain := by
  obtain ⟨-, hplace, hpath⟩ := views_of_parse h
  obtain ⟨hquery, hfragment, -, -⟩ := ending_of_parse h
  have htail := (counted_eq_self_iff _).mp (counted_located s).2
  have hqueryTail : ∀ c ∈ a.query.toList, c ∈ (Text.cutFirst '#' (located s).2).1 := by
    rw [hquery]
    exact fun c hc => Text.mem_of_cutFirst (.inr hc)
  have hpathChars : ∀ c ∈ a.path.toList, c ≠ '?' ∧ c ≠ '#' := by
    intro c hc
    rw [hpath] at hc
    simpa using List.mem_takeWhile_imp hc
  refine
    { path := ⟨fun hc => (hpathChars _ hc).1 rfl, fun hc => (hpathChars _ hc).2 rfl⟩
      query := fun hc => Text.not_mem_fst_cutFirst _ (hqueryTail _ hc)
      counted := ?_ }
  intro part hpart
  simp only [List.mem_cons, List.not_mem_nil, or_false] at hpart
  rcases hpart with rfl | rfl | rfl | rfl
  · rw [hplace]
    exact (counted_located s).1
  · rw [counted_eq_self_iff, hpath]
    exact fun c hc => htail c ((List.takeWhile_prefix _).subset hc)
  · rw [counted_eq_self_iff]
    exact fun c hc => htail c (Text.mem_of_cutFirst (.inl (hqueryTail c hc)))
  · rw [counted_eq_self_iff, hfragment]
    exact fun c hc => htail c (Text.mem_of_cutFirst (.inr hc))

/-- Every address that is read is hosted, if it has a location. -/
theorem hosted_of_parse
    {s : String}
    {a : Address}
    (h : Address.parse s = .ok a)
    (hlocation : a.location ≠ "") :
    a.Hosted := by
  obtain ⟨hscheme, hplace, hpath⟩ := views_of_parse h
  obtain ⟨-, -, hbrackets, hplain⟩ := ending_of_parse h
  obtain ⟨-, hinside, hmark⟩ :
      _ ∧ (∀ c ∈ (located s).1, endsLocation c = false) ∧
        ∀ c, (located s).2.head? = some c → endsLocation c = true :=
    eq_of_takeLocation rfl (located_ne_nil h hlocation)
  refine
    { plain_of_parse h with
      hosted := hlocation
      scheme := ?_
      location := hplace ▸ hinside
      brackets := hbrackets
      undisguised := hplain
      rooted := ?_ }
  · refine or_iff_not_imp_left.mpr fun hsome => ?_
    rw [hscheme]
    exact isScheme_of_takeScheme rfl (schemed_ne_nil h hsome)
  · have hbegins := (pathOf_begins_iff (located s).2).mpr hmark
    rwa [← hpath, String.toList_eq_nil_iff] at hbegins

end Reading

section Writing

variable {a : Address}

theorem startsWith_slash_iff (s : String) :
    s.startsWith "/" = true ↔ s.toList.head? = some '/' := by
  rw [String.startsWith_string_iff]
  cases s.toList with
  | nil =>
      simp
  | cons c rest =>
      simp [eq_comm]

theorem toList_text (hosted : a.Hosted) :
    a.text.toList =
      schemeText a ++ '/' :: '/' :: (a.location.toList ++ tailText a) := by
  have hpath : (if a.path != "" && !a.path.startsWith "/" then "/" ++ a.path else a.path) =
      a.path := by
    refine if_neg ?_
    rcases hosted.rooted with hempty | hslash
    · simp [hempty]
    · simp [(startsWith_slash_iff a.path).mpr hslash]
  unfold Address.text schemeText tailText Text.marked
  have hlocation : (a.location != "") = true := by
    simpa using hosted.hosted
  simp only [hlocation, Bool.true_or, if_true, hpath]
  by_cases hscheme : a.scheme = "" <;> by_cases hquery : a.query = "" <;>
    by_cases hfragment : a.fragment = "" <;>
    simp [hscheme, hquery, hfragment]

theorem counted_append (first second : List Char) :
    counted (first ++ second) = counted first ++ counted second :=
  List.filter_append first second

theorem counted_marked
    {mark : Char}
    (hmark : counted [mark] = [mark])
    {part : List Char}
    (hpart : counted part = part) :
    counted (Text.marked mark part) = Text.marked mark part := by
  unfold Text.marked
  split
  · rfl
  · rw [← List.singleton_append, counted_append, hmark, hpart]

theorem counted_schemeText (hosted : a.Hosted) :
    counted (schemeText a) = schemeText a := by
  unfold schemeText
  split
  · rfl
  · next hsome =>
      have hscheme := hosted.scheme.resolve_left hsome
      have hchars : counted a.scheme.toList = a.scheme.toList := by
        rw [counted_eq_self_iff]
        intro c hc
        have hchar := hscheme.chars c hc
        refine ⟨?_, ?_, ?_⟩ <;> rintro rfl <;> exact absurd hchar (by decide)
      rw [counted_append, hchars]
      rfl

/-- All of the text counts. -/
theorem counted_text (hosted : a.Hosted) :
    counted a.text.toList = a.text.toList := by
  have hparts := hosted.counted
  simp only [List.forall_mem_cons] at hparts
  obtain ⟨hlocation, hpath, hquery, hfragment, -⟩ := hparts
  have hslashes (cs : List Char) : '/' :: '/' :: cs = ['/', '/'] ++ cs := rfl
  rw [toList_text hosted, tailText, hslashes]
  simp only [counted_append, counted_schemeText hosted, hlocation, hpath,
    counted_marked (show counted ['?'] = ['?'] from rfl) hquery,
    counted_marked (show counted ['#'] = ['#'] from rfl) hfragment]
  rfl

/-- Nothing at the start of the text is passed over. -/
theorem clean_text (hosted : a.Hosted) :
    clean a.text.toList = a.text.toList := by
  have hstarts : ∃ c rest, a.text.toList = c :: rest ∧ 0x20 < c.toNat := by
    rw [toList_text hosted, schemeText]
    by_cases hnone : a.scheme = ""
    · rw [if_pos hnone]
      exact ⟨'/', _, rfl, by decide⟩
    · rw [if_neg hnone]
      have hscheme := hosted.scheme.resolve_left hnone
      obtain ⟨c, rest, hcs, hletter⟩ := hscheme.starts
      have hchar := hscheme.chars c (hcs ▸ List.mem_cons_self)
      have hcode := Text.forall_ascii (fun c => !isLetter c || decide (0x20 < c.toNat))
        (by decide +kernel) (lt_of_isSchemeChar hchar)
      rw [hcs]
      exact ⟨c, _, rfl, by simpa [hletter] using hcode⟩
  obtain ⟨c, rest, htext, hcode⟩ := hstarts
  have hkeep : a.text.toList.dropWhile (fun c => c.toNat ≤ 0x20) = a.text.toList := by
    rw [htext, List.dropWhile_cons, if_neg (by simpa using hcode)]
  unfold clean
  rw [hkeep]
  exact counted_text hosted

end Writing

section Back

variable {a : Address}

theorem takeScheme_slash (cs : List Char) :
    takeScheme ('/' :: cs) = ([], '/' :: cs) := by
  unfold takeScheme
  rw [Text.cutFirst_cons, if_neg (by decide)]
  cases (Text.cutFirst ':' cs).2 <;> rfl

/-- A scheme is read up to its colon. -/
theorem takeScheme_of_isScheme
    {scheme : List Char}
    (h : IsScheme scheme)
    (rest : List Char) :
    takeScheme (scheme ++ ':' :: rest) = (scheme, rest) := by
  have hcolon : ':' ∉ scheme := by
    intro hmem
    exact absurd (h.chars ':' hmem) (by decide)
  obtain ⟨c, head, hcs, hletter⟩ := h.starts
  have hhead : (isLetter c && head.all isSchemeChar) = true := by
    rw [hletter, Bool.true_and, List.all_eq_true]
    exact fun d hd => h.chars d (hcs ▸ List.mem_cons_of_mem c hd)
  have hcut := Text.cutFirst_append_cons hcolon rest
  have hlower := h.lower
  rw [hcs] at hcut hlower ⊢
  unfold takeScheme
  rw [hcut]
  simp only [hhead, if_true, hlower]

theorem schemed_text (hosted : a.Hosted) :
    schemed a.text = (a.scheme.toList, '/' :: '/' :: (a.location.toList ++ tailText a)) := by
  unfold schemed
  rw [clean_text hosted, toList_text hosted, schemeText]
  by_cases hnone : a.scheme = ""
  · rw [if_pos hnone, List.nil_append, takeScheme_slash, hnone]
    rfl
  · rw [if_neg hnone, List.append_assoc]
    exact takeScheme_of_isScheme (hosted.scheme.resolve_left hnone) _

/-- A location is read up to the next mark. -/
theorem takeLocation_of_inside
    {location tail : List Char}
    (hinside : ∀ c ∈ location, endsLocation c = false)
    (hmark : ∀ c, tail.head? = some c → endsLocation c = true) :
    takeLocation ('/' :: '/' :: (location ++ tail)) = (location, tail) := by
  have hall : ∀ c ∈ location, (!endsLocation c) = true := fun c hc => by simp [hinside c hc]
  simp only [takeLocation, List.takeWhile_append_of_pos hall, List.dropWhile_append_of_pos hall]
  cases tail with
  | nil =>
      simp
  | cons c tail =>
      simp [hmark c rfl]

theorem head?_tailText
    (hosted : a.Hosted)
    {c : Char}
    (hc : (tailText a).head? = some c) :
    endsLocation c = true := by
  rcases hosted.rooted with hempty | hslash
  · rw [tailText, hempty] at hc
    unfold Text.marked at hc
    split at hc <;> split at hc <;> cases hc <;> decide
  · rw [tailText, List.append_assoc, List.head?_append, hslash, Option.some_or] at hc
    cases hc
    decide

theorem located_text (hosted : a.Hosted) :
    located a.text = (a.location.toList, tailText a) := by
  unfold located
  rw [schemed_text hosted]
  exact takeLocation_of_inside hosted.location fun c hc => head?_tailText hosted hc

/-- What follows the location is cut at the marks of its parts. -/
theorem cuts_tailText (hosted : a.Hosted) :
    (Text.cutFirst '#' (tailText a)).1 = a.path.toList ++ Text.marked '?' a.query.toList ∧
    (Text.cutFirst '#' (tailText a)).2.getD [] = a.fragment.toList := by
  refine Text.cutFirst_marked ?_ a.fragment.toList
  rw [List.mem_append, not_or]
  refine ⟨hosted.path.2, ?_⟩
  unfold Text.marked
  split
  · exact List.not_mem_nil
  · rw [List.mem_cons, not_or]
    exact ⟨by decide, hosted.query⟩

/-- The text of a hosted address is read as the address. -/
theorem parse_text (hosted : a.Hosted) :
    Address.parse a.text = .ok a := by
  obtain ⟨hfront, hfragment⟩ := cuts_tailText hosted
  obtain ⟨hpath, hquery⟩ := Text.cutFirst_marked hosted.path.1 a.query.toList
  have hplain : ¬ hasDisguisedMark a.location.toList = true := by
    rw [hosted.undisguised]
    decide
  rw [parse_eq, schemed_text hosted, located_text hosted, hosted.brackets]
  simp only [hfront, hfragment, hpath, hquery, String.ofList_toList]
  exact if_neg hplain

end Back

end Url
end PageScripts
