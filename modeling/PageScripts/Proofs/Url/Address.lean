import Mathlib.Data.List.TakeWhile
import PageScripts.Proofs.Result
import PageScripts.Url.Address

/-!
# Addresses that go on from another

An address is read from the left: its scheme, its location, its path.  So what is put behind the text
of an address changes the part that the text ends in and what follows it, and no part before.

* `views_of_parse`: the parts of an address, as they are read off its text.
* `takeScheme_append`, `takeLocation_append`: what becomes of them when the text goes on.
* `Address.Within`: an address belongs to another one; `Address.Apart`: a text goes on from that of an
  address at a mark.
* `within_iff_apart`: an address that goes on from the text of another one belongs to it exactly if it
  goes on at a mark.
-/

namespace PageScripts
namespace Url

section Defs

/-- The scheme of a text, and what follows it. -/
def schemed (s : String) : List Char × List Char :=
  takeScheme (clean s.toList)

/-- The location of a text, and what follows it. -/
def located (s : String) : List Char × List Char :=
  takeLocation (schemed s).2

/-- The path in what follows a location. -/
def pathOf (tail : List Char) : List Char :=
  tail.takeWhile fun c => c != '?' && c != '#'

/-- What counts of a text that stands in an address: tabs and line breaks do not. -/
def counted (cs : List Char) : List Char :=
  cs.filter fun c => c != '\t' && c != '\r' && c != '\n'

/-- An address belongs to another one: it has its scheme and its location, and its path is the same or
goes on from it at a slash. -/
structure Address.Within (a base : Address) : Prop where
  scheme : a.scheme = base.scheme
  location : a.location = base.location
  path :
    ∃ more, a.path.toList = base.path.toList ++ more ∧
      (more = [] ∨ base.path.toList.getLast? = some '/' ∨ more.head? = some '/')

/-- A text goes on from that of an address at a mark: the address has a query or a fragment, or its
path ends in a slash, or nothing comes, or what comes begins with a slash, a question mark or a hash. -/
def Address.Apart
    (base : Address)
    (text more : String) : Prop :=
  '?' ∈ text.toList ∨ '#' ∈ text.toList ∨ base.path.toList.getLast? = some '/' ∨
    ∀ c, (counted more.toList).head? = some c → endsLocation c = true

end Defs

section Reading

variable {s : String}

/-- An address is taken apart if its location is in order. -/
theorem parse_eq (s : String) :
    Address.parse s = (checkBrackets (located s).1 >>= fun _ =>
      if hasDisguisedMark (located s).1 then
        .error (.disguisedMark (String.ofList (located s).1))
      else
        .ok
          { scheme := String.ofList (schemed s).1
            location := String.ofList (located s).1
            path := String.ofList (Text.cutFirst '?' (Text.cutFirst '#' (located s).2).1).1
            query := String.ofList ((Text.cutFirst '?' (Text.cutFirst '#' (located s).2).1).2.getD [])
            fragment := String.ofList ((Text.cutFirst '#' (located s).2).2.getD []) }) := by
  simp only [Address.parse, located, schemed]
  congr 1

/-- The parts of an address, as they are read off its text. -/
theorem views_of_parse
    {a : Address}
    (h : Address.parse s = .ok a) :
    a.scheme.toList = (schemed s).1 ∧
    a.location.toList = (located s).1 ∧
    a.path.toList = pathOf (located s).2 := by
  rw [parse_eq] at h
  obtain ⟨_, -, hrest⟩ := ok_of_bind h
  split at hrest
  · cases hrest
  · cases hrest
    simp only [String.toList_ofList, Text.fst_cutFirst, List.takeWhile_takeWhile, pathOf, true_and,
      ← Bool.and_eq_true, Bool.decide_eq_true]

/-- A text with a scheme is the scheme as it is written, a colon, and the rest. -/
theorem eq_of_takeScheme
    {cs scheme rest : List Char}
    (h : takeScheme cs = (scheme, rest))
    (hscheme : scheme ≠ []) :
    ∃ written, cs = written ++ ':' :: rest ∧ ∀ c ∈ written, isSchemeChar c = true := by
  unfold takeScheme at h
  split at h
  · next c head after hcut =>
      split at h
      · next hchars =>
          obtain ⟨hletter, hhead⟩ := Bool.and_eq_true_iff.mp hchars
          refine ⟨c :: head, ?_, List.forall_mem_cons.mpr ⟨?_, List.all_eq_true.mp hhead⟩⟩
          · rw [Text.eq_of_cutFirst hcut, (Prod.mk.inj h).2]
          · simp [isSchemeChar, hletter]
      · cases h
        exact absurd rfl hscheme
  · cases h
    exact absurd rfl hscheme

theorem takeScheme_append
    {cs scheme rest : List Char}
    (h : takeScheme cs = (scheme, rest))
    (hscheme : scheme ≠ [])
    (more : List Char) :
    takeScheme (cs ++ more) = (scheme, rest ++ more) := by
  unfold takeScheme at h ⊢
  split at h
  · next c head after hcut =>
      rw [Text.cutFirst_append hcut more]
      simp only
      split at h
      · next hchars =>
          obtain ⟨rfl, rfl⟩ := Prod.mk.inj h
          rw [if_pos hchars]
      · cases h
        exact absurd rfl hscheme
  · cases h
    exact absurd rfl hscheme

theorem clean_append
    {cs : List Char}
    (h : clean cs ≠ [])
    (more : List Char) :
    clean (cs ++ more) = clean cs ++ counted more := by
  unfold clean at h ⊢
  rw [List.dropWhile_append]
  split
  · next hempty =>
      rw [List.isEmpty_iff.mp hempty] at h
      exact absurd rfl h
  · exact List.filter_append _ _

/-- A text with a location is two slashes, the location, and what follows it. -/
theorem eq_of_takeLocation
    {cs location tail : List Char}
    (h : takeLocation cs = (location, tail))
    (hlocation : location ≠ []) :
    cs = '/' :: '/' :: (location ++ tail) ∧
    (∀ c ∈ location, endsLocation c = false) ∧
    ∀ c, tail.head? = some c → endsLocation c = true := by
  unfold takeLocation at h
  split at h
  · next rest =>
      obtain ⟨rfl, rfl⟩ := Prod.mk.inj h
      refine ⟨by rw [List.takeWhile_append_dropWhile], fun c hc => ?_, fun c hc => ?_⟩
      · simpa using List.mem_takeWhile_imp hc
      · have hhead := List.head?_dropWhile_not (!endsLocation ·) rest
        rw [hc] at hhead
        simpa using hhead
  · cases h
    exact absurd rfl hlocation

/-- What is put behind a text goes to what follows the location, if something follows it; else it goes
to the location as far as it has no mark. -/
theorem takeLocation_append
    {cs location tail : List Char}
    (h : takeLocation cs = (location, tail))
    (hlocation : location ≠ [])
    (more : List Char) :
    takeLocation (cs ++ more) =
      if tail = [] then
        (location ++ more.takeWhile (!endsLocation ·), more.dropWhile (!endsLocation ·))
      else
        (location, tail ++ more) := by
  obtain ⟨rfl, hinside, hmark⟩ := eq_of_takeLocation h hlocation
  have hall : ∀ c ∈ location, (!endsLocation c) = true := fun c hc => by simp [hinside c hc]
  simp only [List.cons_append, takeLocation, List.append_assoc,
    List.takeWhile_append_of_pos hall, List.dropWhile_append_of_pos hall]
  cases tail with
  | nil =>
      rfl
  | cons c tail =>
      simp [hmark c rfl]

end Reading

section Extension

variable {text : String}

/-- The texts of an address that goes on from another one: the scheme is the same, and what counts of
the new text is put behind what follows the scheme. -/
theorem schemed_append
    (hscheme : (schemed text).1 ≠ [])
    (more : String) :
    schemed (text ++ more) = ((schemed text).1, (schemed text).2 ++ counted more.toList) := by
  have hclean : clean text.toList ≠ [] := by
    intro hempty
    unfold schemed at hscheme
    rw [hempty] at hscheme
    exact hscheme rfl
  unfold schemed
  rw [String.toList_append, clean_append hclean]
  exact takeScheme_append rfl hscheme _

/-- The location goes on, if nothing follows it. -/
theorem located_append
    (hscheme : (schemed text).1 ≠ [])
    (hlocation : (located text).1 ≠ [])
    (more : String) :
    located (text ++ more) =
      if (located text).2 = [] then
        ((located text).1 ++ (counted more.toList).takeWhile (!endsLocation ·),
          (counted more.toList).dropWhile (!endsLocation ·))
      else
        ((located text).1, (located text).2 ++ counted more.toList) := by
  unfold located
  rw [schemed_append hscheme]
  exact takeLocation_append rfl hlocation _

/-- A mark of a query or a fragment stands in the text of an address just if it does behind the
location. -/
theorem mem_tail_iff
    (hscheme : (schemed text).1 ≠ [])
    (hlocation : (located text).1 ≠ [])
    {c : Char}
    (hc : c = '?' ∨ c = '#') :
    c ∈ (located text).2 ↔ c ∈ text.toList := by
  obtain ⟨written, hcut, hchars⟩ :
      ∃ written, clean text.toList = written ++ ':' :: (schemed text).2 ∧
        ∀ c ∈ written, isSchemeChar c = true :=
    eq_of_takeScheme rfl hscheme
  obtain ⟨hrest, hinside, -⟩ :
      (schemed text).2 = '/' :: '/' :: ((located text).1 ++ (located text).2) ∧
        (∀ c ∈ (located text).1, endsLocation c = false) ∧ _ :=
    eq_of_takeLocation rfl hlocation
  have hwritten : c ∉ written := by
    intro hmem
    have hchar := hchars c hmem
    rcases hc with rfl | rfl <;> exact absurd hchar (by decide)
  have hlocated : c ∉ (located text).1 := by
    intro hmem
    have hchar := hinside c hmem
    rcases hc with rfl | rfl <;> exact absurd hchar (by decide)
  have htail : c ∈ clean text.toList ↔ c ∈ (located text).2 := by
    rw [hcut, hrest]
    rcases hc with rfl | rfl <;> simp [hwritten, hlocated]
  rw [← htail, clean, List.mem_filter]
  constructor
  · exact fun h => (List.dropWhile_suffix _).subset h.1
  · intro hmem
    refine ⟨?_, by rcases hc with rfl | rfl <;> decide⟩
    -- What is dropped at the start is no mark.
    rw [← List.takeWhile_append_dropWhile (l := text.toList) (p := fun c => c.toNat ≤ 0x20)] at hmem
    refine (List.mem_append.mp hmem).resolve_left fun hfront => ?_
    have hcode := List.mem_takeWhile_imp hfront
    rcases hc with rfl | rfl <;> exact absurd hcode (by decide)

theorem pathOf_append_of_mark
    {tail : List Char}
    (hmark : '?' ∈ tail ∨ '#' ∈ tail)
    (more : List Char) :
    pathOf (tail ++ more) = pathOf tail := by
  induction tail with
  | nil =>
      simp at hmark
  | cons c tail ih =>
      unfold pathOf at ih ⊢
      rw [List.cons_append, List.takeWhile_cons, List.takeWhile_cons]
      by_cases hc : (c != '?' && c != '#') = true
      · rw [if_pos hc, if_pos hc, ih]
        simp only [Bool.and_eq_true, bne_iff_ne, ne_eq] at hc
        simpa [Ne.symm hc.1, Ne.symm hc.2] using hmark
      · rw [if_neg hc, if_neg hc]

theorem pathOf_append_of_unmarked
    {tail : List Char}
    (hquery : '?' ∉ tail)
    (hfragment : '#' ∉ tail)
    (more : List Char) :
    pathOf (tail ++ more) = tail ++ pathOf more := by
  refine List.takeWhile_append_of_pos fun c hc => ?_
  simp [ne_of_mem_of_not_mem hc hquery, ne_of_mem_of_not_mem hc hfragment]

/-- A path is empty or begins with a slash just if no other character comes first. -/
theorem pathOf_begins_iff (cs : List Char) :
    (pathOf cs = [] ∨ (pathOf cs).head? = some '/') ↔
      ∀ c, cs.head? = some c → endsLocation c = true := by
  cases cs with
  | nil =>
      simp [pathOf]
  | cons c cs =>
      simp only [pathOf, List.takeWhile_cons, List.head?_cons, Option.some.injEq, forall_eq',
        endsLocation]
      by_cases hquery : c = '?'
      · simp [hquery]
      · by_cases hfragment : c = '#' <;> simp [hquery, hfragment]

theorem takeWhile_eq_nil_iff_begins (cs : List Char) :
    cs.takeWhile (!endsLocation ·) = [] ↔ ∀ c, cs.head? = some c → endsLocation c = true := by
  cases cs with
  | nil =>
      simp
  | cons c cs =>
      simp [List.takeWhile_cons]

/-- A path goes on at a slash just if the text goes on at a mark. -/
theorem pathOf_continues_iff (tail more : List Char) :
    (∃ rest, pathOf (tail ++ more) = pathOf tail ++ rest ∧
      (rest = [] ∨ (pathOf tail).getLast? = some '/' ∨ rest.head? = some '/')) ↔
    ('?' ∈ tail ∨ '#' ∈ tail) ∨ (pathOf tail).getLast? = some '/' ∨
      ∀ c, more.head? = some c → endsLocation c = true := by
  by_cases hmark : '?' ∈ tail ∨ '#' ∈ tail
  · refine iff_of_true ⟨[], ?_, .inl rfl⟩ (.inl hmark)
    rw [pathOf_append_of_mark hmark, List.append_nil]
  · obtain ⟨hquery, hfragment⟩ := not_or.mp hmark
    have htail : pathOf tail = tail := by
      simpa [pathOf] using pathOf_append_of_unmarked hquery hfragment []
    rw [pathOf_append_of_unmarked hquery hfragment, htail, ← pathOf_begins_iff]
    simp only [List.append_cancel_left_eq, exists_eq_left', hquery, hfragment, false_or]
    exact or_left_comm

end Extension

section Within

variable {text more : String}
variable {base a : Address}
variable (hbase : Address.parse text = .ok base)
variable (hscheme : base.scheme ≠ "")

include hbase hscheme

theorem schemed_ne_nil :
    (schemed text).1 ≠ [] := by
  rw [← (views_of_parse hbase).1]
  exact mt String.toList_eq_nil_iff.mp hscheme

theorem scheme_of_append
    (ha : Address.parse (text ++ more) = .ok a) :
    a.scheme = base.scheme := by
  refine String.toList_inj.mp ?_
  rw [(views_of_parse ha).1, (views_of_parse hbase).1,
    schemed_append (schemed_ne_nil hbase hscheme)]

variable (hlocation : base.location ≠ "")

include hlocation

omit hscheme in
theorem located_ne_nil :
    (located text).1 ≠ [] := by
  rw [← (views_of_parse hbase).2.1]
  exact mt String.toList_eq_nil_iff.mp hlocation

/-- The text goes on at a mark just if its path does, or what it has for one behind the location. -/
theorem apart_iff :
    base.Apart text more ↔
      ∃ rest, pathOf ((located text).2 ++ counted more.toList) = base.path.toList ++ rest ∧
        (rest = [] ∨ base.path.toList.getLast? = some '/' ∨ rest.head? = some '/') := by
  have hsome := schemed_ne_nil hbase hscheme
  have hplace := located_ne_nil hbase hlocation
  rw [(views_of_parse hbase).2.2, pathOf_continues_iff, mem_tail_iff hsome hplace (.inl rfl),
    mem_tail_iff hsome hplace (.inr rfl), or_assoc, ← (views_of_parse hbase).2.2]
  rfl

/-- If something follows the location, what is put behind the text goes to that. -/
theorem views_of_append
    (htail : (located text).2 ≠ [])
    (ha : Address.parse (text ++ more) = .ok a) :
    a.location = base.location ∧
    a.path.toList = pathOf ((located text).2 ++ counted more.toList) := by
  obtain ⟨-, haLocation, haPath⟩ := views_of_parse ha
  rw [located_append (schemed_ne_nil hbase hscheme) (located_ne_nil hbase hlocation),
    if_neg htail] at haLocation haPath
  exact ⟨String.toList_inj.mp (haLocation.trans (views_of_parse hbase).2.1.symm), haPath⟩

/-- If the text ends in its location, that goes on up to the first mark. -/
theorem views_of_append_bare
    (htail : (located text).2 = [])
    (ha : Address.parse (text ++ more) = .ok a) :
    a.location.toList =
      base.location.toList ++ (counted more.toList).takeWhile (!endsLocation ·) ∧
    a.path.toList = pathOf ((counted more.toList).dropWhile (!endsLocation ·)) := by
  obtain ⟨-, haLocation, haPath⟩ := views_of_parse ha
  rw [located_append (schemed_ne_nil hbase hscheme) (located_ne_nil hbase hlocation),
    if_pos htail] at haLocation haPath
  rw [← (views_of_parse hbase).2.1] at haLocation
  exact ⟨haLocation, haPath⟩

theorem within_iff_apart_bare
    (htail : (located text).2 = [])
    (ha : Address.parse (text ++ more) = .ok a) :
    a.Within base ↔ base.Apart text more := by
  obtain ⟨haLocation, haPath⟩ := views_of_append_bare hbase hscheme hlocation htail ha
  have hbasePath : base.path.toList = [] := by
    rw [(views_of_parse hbase).2.2, htail]
    rfl
  -- The location is the same just if what is put behind the text begins with a mark.
  have hsame : a.location = base.location ↔
      ∀ c, (counted more.toList).head? = some c → endsLocation c = true := by
    rw [← takeWhile_eq_nil_iff_begins, ← String.toList_inj, haLocation, List.append_right_eq_self]
  rw [apart_iff hbase hscheme hlocation, htail, List.nil_append]
  constructor
  · intro hwithin
    have hbegins := hsame.mp hwithin.location
    refine ⟨pathOf (counted more.toList), by rw [hbasePath, List.nil_append], ?_⟩
    exact ((pathOf_begins_iff _).mpr hbegins).imp_right .inr
  · rintro ⟨rest, hrest, hcontinues⟩
    rw [hbasePath, List.nil_append] at hrest
    rw [hbasePath] at hcontinues
    have hbegins : ∀ c, (counted more.toList).head? = some c → endsLocation c = true := by
      rw [← pathOf_begins_iff, hrest]
      exact hcontinues.imp_right fun h => h.resolve_left (by simp)
    refine ⟨scheme_of_append hbase hscheme ha, hsame.mpr hbegins, rest, ?_, ?_⟩
    · have hnone := (takeWhile_eq_nil_iff_begins _).mpr hbegins
      have hall := List.takeWhile_append_dropWhile (p := (!endsLocation ·)) (l := counted more.toList)
      rw [hnone, List.nil_append] at hall
      rw [haPath, hall, hrest, hbasePath, List.nil_append]
    · rwa [hbasePath]

/-- An address that goes on from the text of another one has its scheme, and its location goes on from
that of the other.  It belongs to the other just if its text goes on at a mark. -/
theorem within_iff_apart
    (ha : Address.parse (text ++ more) = .ok a) :
    a.scheme = base.scheme ∧
    base.location.toList <+: a.location.toList ∧
    (a.Within base ↔ base.Apart text more) := by
  refine ⟨scheme_of_append hbase hscheme ha, ?_⟩
  by_cases htail : (located text).2 = []
  · refine ⟨?_, within_iff_apart_bare hbase hscheme hlocation htail ha⟩
    rw [(views_of_append_bare hbase hscheme hlocation htail ha).1]
    exact List.prefix_append _ _
  · obtain ⟨haLocation, haPath⟩ := views_of_append hbase hscheme hlocation htail ha
    refine ⟨haLocation ▸ List.prefix_refl _, ?_⟩
    rw [apart_iff hbase hscheme hlocation, ← haPath]
    constructor
    · exact fun hwithin => hwithin.path
    · exact fun hpath => ⟨scheme_of_append hbase hscheme ha, haLocation, hpath⟩

end Within

end Url
end PageScripts
