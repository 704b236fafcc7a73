import Mathlib.Data.List.DropRight
import PageScripts.Proofs.Url.ReadBack
import PageScripts.Url.Join

/-!
# What an address leads to from a base

An address that is read against a base is kept as it is, if it has a scheme of its own.  Else it has the
scheme of the base, and of its location, its path and its query as many as it does not give itself are
taken from the base; a path that is not rooted goes on from the folder of the base's path.

* `Parted`: a path and the parameters of its last part.
* `Names`: the parts of the path that a path names on that of a base; `pathTo`: the path with such parts,
  when points are worked off.
* `Address.On`: the address that two addresses give; `Resolves`: the text that two texts give.
* `names_of_joinPath`, `on_of_join`: what is joined is such.

**Result.**  `resolves_of_join`: joining gives what `Resolves` says.  `full_of_resolves`: from the base of a
page with a location, that is the address itself or an address with the scheme of the base and a location.
-/

namespace PageScripts
namespace Url

section Defs

/-- What follows the last slash of a path. -/
def lastPart (path : List Char) : List Char :=
  path.rtakeWhile (· != '/')

/-- A path and the parameters of its last part: they follow the first semicolon there, if addresses of
the scheme have parameters. -/
inductive Parted
    (scheme : String)
    (whole : List Char) :
    List Char → List Char → Prop
  | bare
      (hnone : scheme ∉ paramSchemes ∨ ';' ∉ lastPart whole) :
      Parted scheme whole whole []
  | cut
      {path params : List Char}
      (hscheme : scheme ∈ paramSchemes)
      (hwhole : whole = path ++ ';' :: params)
      (hlast : '/' ∉ params)
      (hfirst : ';' ∉ lastPart path) :
      Parted scheme whole path params

/-- Goes on along a part of a path: a point stays where it is, two points leave the last part. -/
def enter (place : List (List Char)) : List Char → List (List Char)
  | ['.', '.'] => place.dropLast
  | ['.'] => place
  | part => place ++ [part]

/-- The parts without the empty ones between the first and the last. -/
inductive Tidied : List (List Char) → List (List Char) → Prop
  | single
      {part : List Char} :
      Tidied [part] [part]
  | between
      {first last : List Char}
      {middle : List (List Char)} :
      Tidied (first :: (middle ++ [last])) (first :: (middle.filter (· ≠ []) ++ [last]))

/-- The folder that a path is in; that of the empty path is the root. -/
def folderOf (path : List Char) : List (List Char) :=
  if path = [] then [[]] else (Text.pieces '/' path).dropLast

/-- The parts that a path names on a base path: its own ones, if it begins with a slash, else those of
the folder of the base path and its own ones. -/
inductive Names
    (base path : List Char) :
    List (List Char) → Prop
  | rooted
      (hslash : path.head? = some '/') :
      Names base path (Text.pieces '/' path)
  | beside
      {parts : List (List Char)}
      (hslash : path.head? ≠ some '/')
      (htidied : Tidied (folderOf base ++ Text.pieces '/' path) parts) :
      Names base path parts

/-- The parts that are left when points are worked off.  An empty one comes last if the last part is a
point or two. -/
def placeOf (parts : List (List Char)) : List (List Char) :=
  if parts.getLast? = some ['.'] ∨ parts.getLast? = some ['.', '.'] then
    parts.foldl enter [] ++ [[]]
  else
    parts.foldl enter []

/-- The path along the given parts; it is a slash at least. -/
def pathTo (parts : List (List Char)) : List Char :=
  if Text.joinPieces '/' (placeOf parts) = [] then ['/'] else Text.joinPieces '/' (placeOf parts)

/-- Whether an address goes on from a base: it has no scheme or that of the base, and the scheme of the
base knows relative addresses. -/
def Address.GoesOn (a base : Address) : Prop :=
  (a.scheme = "" ∨ a.scheme = base.scheme) ∧ base.scheme ∈ relativeSchemes

/-- The address that one which goes on from a base leads to. -/
inductive Address.On (a base : Address) : Address → Prop
  | hosted
      {path params : List Char}
      (hlocation : a.location ≠ "")
      (hparted : Parted base.scheme a.path.toList path params) :
      Address.On a base
        { a with
          scheme := base.scheme
          path := String.ofList (path ++ Text.marked ';' params) }
  | samePath
      {path params : List Char}
      (hlocation : a.location = "")
      (hnone : Parted base.scheme a.path.toList [] [])
      (hparted : Parted base.scheme base.path.toList path params) :
      Address.On a base
        { base with
          path := String.ofList (path ++ Text.marked ';' params)
          query := if a.query = "" then base.query else a.query
          fragment := a.fragment }
  | otherPath
      {path params basePath baseParams : List Char}
      {parts : List (List Char)}
      (hlocation : a.location = "")
      (hparted : Parted base.scheme a.path.toList path params)
      (hsome : path ≠ [] ∨ params ≠ [])
      (hbase : Parted base.scheme base.path.toList basePath baseParams)
      (hnames : Names basePath path parts) :
      Address.On a base
        { a with
          scheme := base.scheme
          location := base.location
          path := String.ofList (pathTo parts ++ Text.marked ';' params) }

/-- What a text leads to from the text of a base.  If one of them is empty it is the other one; an
address that does not go on from the base is kept as it is written. -/
inductive Resolves (base address : String) : String → Prop
  | alone
      (hbase : base = "") :
      Resolves base address address
  | nothing
      (hbase : base ≠ "")
      (haddress : address = "") :
      Resolves base address base
  | foreign
      {b a : Address}
      (hsome : base ≠ "" ∧ address ≠ "")
      (hb : Address.parse base = .ok b)
      (ha : Address.parse address = .ok a)
      (hforeign : ¬ a.GoesOn b) :
      Resolves base address address
  | joined
      {b a joined : Address}
      (hsome : base ≠ "" ∧ address ≠ "")
      (hb : Address.parse base = .ok b)
      (ha : Address.parse address = .ok a)
      (hgoes : a.GoesOn b)
      (hon : a.On b joined) :
      Resolves base address joined.text

/-- What an address may lead to from a base with a location: itself, if it has a scheme of its own, or an
address with the scheme of the base and a location, its own one if it has one. -/
inductive Full (base : Address) (address : String) : String → Prop
  | own
      {a : Address}
      (ha : Address.parse address = .ok a)
      (hscheme : a.scheme ≠ "" ∧ a.scheme ≠ base.scheme) :
      Full base address address
  | based
      {result : String}
      {a r : Address}
      (ha : Address.parse address = .ok a)
      (hr : Address.parse result = .ok r)
      (hscheme : r.scheme = base.scheme)
      (hlocation : r.location = if a.location = "" then base.location else a.location) :
      Full base address result

end Defs

section Params

theorem lastPart_eq (path : List Char) :
    lastPart path = (Text.cutLast '/' path).2 := by
  rw [lastPart, List.rtakeWhile, ← Text.fst_cutFirst]
  rfl

/-- What goes before the last part of a path is what is cut off before its last slash, and the slash. -/
theorem front_eq (path : List Char) :
    path.rdropWhile (· != '/') = ((Text.cutLast '/' path).1.map (· ++ ['/'])).getD [] := by
  have hcut : (Text.cutLast '/' path).1 =
      (path.reverse.dropWhile (· != '/')).tail?.map List.reverse := by
    rw [← Text.snd_cutFirst]
    rfl
  rw [hcut, List.rdropWhile]
  cases hdrop : path.reverse.dropWhile (· != '/') with
  | nil =>
      rfl
  | cons c rest =>
      have hslash : c = '/' := by
        have hhead := List.head?_dropWhile_not (· != '/') path.reverse
        rw [hdrop] at hhead
        simpa using hhead
      simp [hslash]

/-- What stands behind the last slash is the last part. -/
theorem lastPart_append
    (path : List Char)
    {last : List Char}
    (hlast : '/' ∉ last) :
    lastPart (path.rdropWhile (· != '/') ++ last) = last := by
  have hall : ∀ c ∈ last.reverse, (c != '/') = true := by
    intro c hc
    simpa using ne_of_mem_of_not_mem (List.mem_reverse.mp hc) hlast
  have hstop : lastPart (path.rdropWhile (· != '/')) = [] :=
    List.rtakeWhile_eq_nil_iff.mpr fun hsome => List.rdropWhile_last_not _ _ hsome
  rw [lastPart, List.rtakeWhile, List.reverse_append, List.takeWhile_append_of_pos hall,
    List.reverse_append, List.reverse_reverse, ← List.rtakeWhile, ← lastPart, hstop, List.nil_append]

theorem cutParams_eq
    {scheme : String}
    (hscheme : scheme ∈ paramSchemes)
    (path : String) :
    cutParams scheme path =
      (String.ofList (path.toList.rdropWhile (· != '/') ++
          (Text.cutFirst ';' (lastPart path.toList)).1),
        String.ofList ((Text.cutFirst ';' (lastPart path.toList)).2.getD [])) := by
  unfold cutParams
  rw [if_pos (List.contains_iff_mem.mpr hscheme), front_eq, lastPart_eq]
  dsimp only
  cases (Text.cutLast '/' path.toList).1 <;> simp

theorem parted_cutParams (scheme path : String) :
    Parted scheme path.toList (cutParams scheme path).1.toList (cutParams scheme path).2.toList := by
  by_cases hscheme : scheme ∈ paramSchemes
  · have hwhole : path.toList.rdropWhile (· != '/') ++ lastPart path.toList = path.toList :=
      List.rdropWhile_append_rtakeWhile ..
    have hplain : '/' ∉ lastPart path.toList := by
      intro hmem
      simpa using List.mem_rtakeWhile_imp hmem
    rw [cutParams_eq hscheme, String.toList_ofList, String.toList_ofList]
    by_cases hmark : ';' ∈ lastPart path.toList
    · obtain ⟨last, params, hlast, hfirst⟩ := List.eq_append_cons_of_mem hmark
      rw [hlast, List.mem_append, List.mem_cons, not_or, not_or] at hplain
      rw [hlast, Text.cutFirst_append_cons hfirst]
      refine .cut hscheme ?_ hplain.2.2 ?_
      · rw [hlast] at hwhole
        simpa using hwhole.symm
      · rwa [lastPart_append _ hplain.1]
    · rw [Text.cutFirst_of_not_mem hmark, hwhole]
      exact .bare (.inr hmark)
  · unfold cutParams
    rw [if_neg (mt List.contains_iff_mem.mp hscheme)]
    exact .bare (.inl hscheme)

end Params

section Paths

/-- A part that is no point is put behind the place. -/
theorem enter_of_ne
    {part : List Char}
    (hpoint : part ≠ ['.'])
    (hpoints : part ≠ ['.', '.'])
    (place : List (List Char)) :
    enter place part = place ++ [part] := by
  unfold enter
  split
  · exact absurd rfl hpoints
  · exact absurd rfl hpoint
  · rfl

/-- Working off the points of a path goes along its parts. -/
theorem resolveDots_eq (acc parts : List (List Char)) :
    resolveDots acc parts = parts.foldl enter acc.reverse := by
  induction parts generalizing acc with
  | nil =>
      rfl
  | cons part rest ih =>
      rw [List.foldl_cons]
      by_cases hpoints : part = ['.', '.']
      · subst hpoints
        rw [resolveDots, ih, List.drop_one, ← List.dropLast_reverse]
        rfl
      · by_cases hpoint : part = ['.']
        · subst hpoint
          rw [resolveDots, ih]
          rfl
        · rw [resolveDots, ih, List.reverse_cons, enter_of_ne hpoint hpoints]
          · exact hpoints
          · exact hpoint

theorem squeeze_eq
    (first last : List Char)
    (middle : List (List Char)) :
    squeeze (first :: (middle ++ [last])) = first :: (middle.filter (· ≠ []) ++ [last]) := by
  have hsome : (fun part : List Char => !part.isEmpty) = fun part => decide (part ≠ []) := by
    funext part
    cases part <;> rfl
  simp only [squeeze, List.getLast?_concat, List.dropLast_concat, hsome, List.cons_append]

theorem tidied_squeeze
    {parts : List (List Char)}
    (hsome : parts ≠ []) :
    Tidied parts (squeeze parts) := by
  obtain ⟨first, rest, rfl⟩ := List.exists_cons_of_ne_nil hsome
  rcases List.eq_nil_or_concat' rest with rfl | ⟨middle, last, rfl⟩
  · exact .single
  · rw [squeeze_eq]
    exact .between

theorem pieces_eq_singleton_nil_iff (path : List Char) :
    Text.pieces '/' path = [[]] ↔ path = [] := by
  constructor
  · intro h
    rw [← Text.joinPieces_pieces '/' path, h]
    rfl
  · rintro rfl
    rfl

/-- An empty part behind the folder of a path makes no difference. -/
theorem squeeze_folder
    (base : List Char)
    {own : List (List Char)}
    (hown : own ≠ []) :
    squeeze ((if (Text.pieces '/' base).getLast? = some [] then Text.pieces '/' base
      else (Text.pieces '/' base).dropLast) ++ own) = squeeze (folderOf base ++ own) := by
  unfold folderOf
  by_cases hbase : base = []
  · simp [hbase, Text.pieces]
  · rw [if_neg hbase]
    split
    · next hend =>
        obtain ⟨front, hfront⟩ := List.getLast?_eq_some_iff.mp hend
        have hsome : front ≠ [] := by
          rintro rfl
          exact hbase ((pieces_eq_singleton_nil_iff base).mp hfront)
        obtain ⟨first, front, rfl⟩ := List.exists_cons_of_ne_nil hsome
        obtain ⟨own, last, rfl⟩ := (List.eq_nil_or_concat' own).resolve_left hown
        rw [hfront, List.dropLast_concat]
        simp only [List.cons_append, ← List.append_assoc, squeeze_eq]
        simp
    · rfl

theorem joinPath_eq (base path : String) :
    (joinPath base path).toList =
      pathTo
        (if path.toList.head? = some '/' then
          Text.pieces '/' path.toList
        else
          squeeze (folderOf base.toList ++ Text.pieces '/' path.toList)) := by
  unfold joinPath pathTo placeOf
  simp only [resolveDots_eq, List.reverse_nil, startsWith_slash_iff,
    squeeze_folder _ (Text.pieces_ne_nil '/' path.toList), String.ofList_eq_empty_iff,
    apply_ite String.toList, String.toList_ofList]
  rfl

/-- The joined path is the one along the parts that the path names. -/
theorem names_of_joinPath (base path : String) :
    ∃ parts, Names base.toList path.toList parts ∧ (joinPath base path).toList = pathTo parts := by
  have hsome : folderOf base.toList ++ Text.pieces '/' path.toList ≠ [] :=
    List.append_ne_nil_of_right_ne_nil _ (Text.pieces_ne_nil '/' path.toList)
  rw [joinPath_eq]
  by_cases hslash : path.toList.head? = some '/'
  · rw [if_pos hslash]
    exact ⟨_, .rooted hslash, rfl⟩
  · rw [if_neg hslash]
    exact ⟨_, .beside hslash (tidied_squeeze hsome), rfl⟩

end Paths

section Joining

/-- Addresses whose scheme knows relative ones have a location. -/
theorem mem_locationSchemes
    {scheme : String}
    (h : scheme ∈ relativeSchemes) :
    scheme ∈ locationSchemes := by
  revert scheme
  decide

theorem withParams_eq (path params : String) :
    withParams path params = String.ofList (path.toList ++ Text.marked ';' params.toList) := by
  unfold withParams Text.marked
  by_cases hnone : params = ""
  · simp [hnone]
  · simp [hnone, String.toList_inj.symm]

/-- What is joined is the address that the two lead to, if the one goes on from the other. -/
theorem on_of_join
    {base address result : String}
    {b a : Address}
    (hsome : base ≠ "" ∧ address ≠ "")
    (hb : Address.parse base = .ok b)
    (ha : Address.parse address = .ok a)
    (hgoes : a.GoesOn b)
    (h : join base address = .ok result) :
    ∃ joined, a.On b joined ∧ result = joined.text := by
  have hscheme : (if a.scheme = "" then b.scheme else a.scheme) = b.scheme := by
    rcases hgoes.1 with hnone | hsame
    · rw [if_pos hnone]
    · rw [hsame, ite_self]
  have hrelative : relativeSchemes.contains b.scheme = true := List.contains_iff_mem.mpr hgoes.2
  have hlocations : locationSchemes.contains b.scheme = true :=
    List.contains_iff_mem.mpr (mem_locationSchemes hgoes.2)
  have hparted := parted_cutParams b.scheme a.path
  have hbase := parted_cutParams b.scheme b.path
  unfold join at h
  simp only [hb, ha, hsome.1, hsome.2, hscheme, hrelative, hlocations, if_false, bind, Except.bind,
    pure, Except.pure, ne_eq, not_true_eq_false, Bool.not_true, Bool.false_eq_true, or_self, if_true,
    true_and, withParams_eq] at h
  split at h
  · next hlocation =>
      cases h
      exact ⟨_, .hosted hlocation hparted, rfl⟩
  · next hlocation =>
      split at h
      · next hnone =>
          cases h
          rw [hnone.1, hnone.2] at hparted
          exact ⟨_, .samePath (not_not.mp hlocation) hparted hbase, rfl⟩
      · next hother =>
          cases h
          obtain ⟨parts, hnames, hpath⟩ :=
            names_of_joinPath (cutParams b.scheme b.path).1 (cutParams b.scheme a.path).1
          refine ⟨_, .otherPath (not_not.mp hlocation) hparted ?_ hbase hnames, ?_⟩
          · rw [not_and_or] at hother
            exact hother.imp (mt String.toList_eq_nil_iff.mp) (mt String.toList_eq_nil_iff.mp)
          · rw [hpath]

theorem resolves_of_join
    {base address result : String}
    (h : join base address = .ok result) :
    Resolves base address result := by
  by_cases hbase : base = ""
  · have hresult : address = result := by
      simpa [join, hbase, pure, Except.pure] using h
    exact hresult ▸ .alone hbase
  by_cases haddress : address = ""
  · have hresult : base = result := by
      simpa [join, hbase, haddress, pure, Except.pure] using h
    exact hresult ▸ .nothing hbase haddress
  have hrest := h
  unfold join at hrest
  rw [if_neg hbase, if_neg haddress] at hrest
  obtain ⟨b, hb, hrest⟩ := ok_of_bind hrest
  obtain ⟨a, ha, hrest⟩ := ok_of_bind hrest
  by_cases hgoes : a.GoesOn b
  · obtain ⟨joined, hon, rfl⟩ := on_of_join ⟨hbase, haddress⟩ hb ha hgoes h
    exact .joined ⟨hbase, haddress⟩ hb ha hgoes hon
  · have hforeign : ¬ ((if a.scheme = "" then b.scheme else a.scheme) = b.scheme ∧
        relativeSchemes.contains (if a.scheme = "" then b.scheme else a.scheme) = true) := by
      rintro ⟨hsame, hrelative⟩
      rw [hsame] at hrelative
      refine hgoes ⟨or_iff_not_imp_left.mpr fun hown => ?_, List.contains_iff_mem.mp hrelative⟩
      rwa [if_neg hown] at hsame
    rw [not_and_or, Bool.not_eq_true, ← Bool.not_eq_true'] at hforeign
    dsimp only at hrest
    rw [if_pos hforeign] at hrest
    cases hrest
    exact .foreign ⟨hbase, haddress⟩ hb ha hgoes

end Joining

section Chars

theorem mem_of_parted
    {scheme : String}
    {whole path params : List Char}
    (h : Parted scheme whole path params)
    {c : Char}
    (hc : c ∈ path ++ Text.marked ';' params) :
    c = ';' ∨ c ∈ whole := by
  cases h with
  | bare hnone =>
      rw [List.mem_append] at hc
      exact .inr (hc.resolve_right (by simp [Text.marked]))
  | cut hscheme hwhole hlast hfirst =>
      rw [hwhole, List.mem_append, List.mem_cons]
      unfold Text.marked at hc
      rw [List.mem_append] at hc
      rcases hc with hpath | hparams
      · exact .inr (.inl hpath)
      · split at hparams
        · cases hparams
        · exact (List.mem_cons.mp hparams).imp_right fun hmem => .inr (.inr hmem)

theorem mem_of_foldl_enter
    {parts place : List (List Char)}
    {part : List Char}
    (h : part ∈ parts.foldl enter place) :
    part ∈ place ∨ part ∈ parts := by
  induction parts generalizing place with
  | nil =>
      exact .inl h
  | cons first rest ih =>
      rcases ih h with hplace | hrest
      · unfold enter at hplace
        split at hplace
        · exact .inl (List.dropLast_subset _ hplace)
        · exact .inl hplace
        · exact (List.mem_append.mp hplace).imp_right fun hlast =>
            List.mem_cons.mpr (.inl (List.mem_singleton.mp hlast))
      · exact .inr (List.mem_cons_of_mem first hrest)

theorem mem_pathTo
    {parts : List (List Char)}
    {c : Char}
    (hc : c ∈ pathTo parts) :
    c = '/' ∨ ∃ part ∈ parts, c ∈ part := by
  unfold pathTo at hc
  split at hc
  · exact .inl (List.mem_singleton.mp hc)
  · refine (Text.mem_joinPieces hc).imp_right ?_
    rintro ⟨part, hpart, hmem⟩
    refine ⟨part, ?_, hmem⟩
    have hplace : part ∈ parts.foldl enter [] := by
      unfold placeOf at hpart
      split at hpart
      · refine (List.mem_append.mp hpart).resolve_right fun hend => ?_
        rw [List.mem_singleton.mp hend] at hmem
        cases hmem
      · exact hpart
    exact (mem_of_foldl_enter hplace).resolve_left List.not_mem_nil

theorem mem_of_tidied
    {whole parts : List (List Char)}
    (h : Tidied whole parts)
    {part : List Char}
    (hpart : part ∈ parts) :
    part ∈ whole := by
  cases h with
  | single =>
      exact hpart
  | between =>
      simp only [List.mem_cons, List.mem_append, List.mem_filter] at hpart ⊢
      exact hpart.imp_right fun hrest => hrest.imp_left And.left

theorem mem_of_names
    {base path : List Char}
    {parts : List (List Char)}
    (h : Names base path parts)
    {part : List Char}
    (hpart : part ∈ parts)
    {c : Char}
    (hc : c ∈ part) :
    c ∈ base ∨ c ∈ path := by
  cases h with
  | rooted hslash =>
      exact .inr (Text.mem_of_mem_pieces hpart hc)
  | beside hslash htidied =>
      rcases List.mem_append.mp (mem_of_tidied htidied hpart) with hfolder | hown
      · unfold folderOf at hfolder
        split at hfolder
        · rw [List.mem_singleton.mp hfolder] at hc
          cases hc
        · exact .inl (Text.mem_of_mem_pieces (List.dropLast_subset _ hfolder) hc)
      · exact .inr (Text.mem_of_mem_pieces hown hc)

end Chars

section Full

variable {base a r : Address}

/-- A path with the slash that stands between it and a location. -/
def rooted (path : String) : String :=
  if path != "" && !path.startsWith "/" then "/" ++ path else path

/-- An address with a location as its text has it. -/
def Address.written (a : Address) : Address :=
  { a with path := rooted a.path }

theorem rooted_begins (path : String) :
    rooted path = "" ∨ (rooted path).toList.head? = some '/' := by
  unfold rooted
  split
  · exact .inr (by simp)
  · next hkept =>
      rw [Bool.and_eq_true, not_and_or, Bool.not_eq_true, Bool.not_eq_true, Bool.not_eq_false',
        bne_eq_false_iff_eq, startsWith_slash_iff] at hkept
      exact hkept

theorem mem_rooted
    {path : String}
    {c : Char}
    (hc : c ∈ (rooted path).toList) :
    c = '/' ∨ c ∈ path.toList := by
  unfold rooted at hc
  split at hc
  · simpa using hc
  · exact .inr hc

theorem text_written (hlocation : a.location ≠ "") :
    a.written.text = a.text := by
  have htwice : rooted (rooted a.path) = rooted a.path := by
    refine if_neg ?_
    rcases rooted_begins a.path with hempty | hslash
    · simp [hempty]
    · simp [(startsWith_slash_iff _).mpr hslash]
  have hsome : (a.location != "") = true := by
    simpa using hlocation
  unfold Address.text Address.written
  simp only [hsome, Bool.true_or, if_true]
  rw [← rooted, ← rooted, htwice]

/-- An address that is led to has the scheme of the base, and its location if it has none itself. -/
theorem parts_of_on (hon : a.On base r) :
    r.scheme = base.scheme ∧
    r.location = (if a.location = "" then base.location else a.location) ∧
    (r.query = a.query ∨ r.query = base.query) ∧
    r.fragment = a.fragment := by
  cases hon with
  | hosted hlocation hparted =>
      exact ⟨rfl, (if_neg hlocation).symm, .inl rfl, rfl⟩
  | samePath hlocation hnone hparted =>
      exact ⟨rfl, (if_pos hlocation).symm, (ite_eq_or_eq _ _ _).symm, rfl⟩
  | otherPath hlocation hparted hsome hbase hnames =>
      exact ⟨rfl, (if_pos hlocation).symm, .inl rfl, rfl⟩

/-- Its path is made of the characters of both paths. -/
theorem mem_path_of_on
    (hon : a.On base r)
    {c : Char}
    (hc : c ∈ r.path.toList) :
    c = ';' ∨ c = '/' ∨ c ∈ a.path.toList ∨ c ∈ base.path.toList := by
  cases hon with
  | hosted hlocation hparted =>
      rw [String.toList_ofList] at hc
      exact (mem_of_parted hparted hc).imp_right fun hmem => .inr (.inl hmem)
  | samePath hlocation hnone hparted =>
      rw [String.toList_ofList] at hc
      exact (mem_of_parted hparted hc).imp_right fun hmem => .inr (.inr hmem)
  | otherPath hlocation hparted hsome hbase hnames =>
      rw [String.toList_ofList, List.mem_append] at hc
      rcases hc with hpath | hparams
      · rcases mem_pathTo hpath with hslash | ⟨part, hpart, hmem⟩
        · exact .inr (.inl hslash)
        · rcases mem_of_names hnames hpart hmem with hfolder | hown
          · exact (mem_of_parted hbase (List.mem_append_left _ hfolder)).imp_right fun h =>
              .inr (.inr h)
          · exact (mem_of_parted hparted (List.mem_append_left _ hown)).imp_right fun h =>
              .inr (.inl h)
      · exact (mem_of_parted hparted (List.mem_append_right _ hparams)).imp_right fun h =>
          .inr (.inl h)

/-- The characters of a path, as they are read. -/
theorem Address.Plain.pathChar
    (ha : a.Plain)
    {c : Char}
    (hc : c ∈ a.path.toList) :
    c ≠ '?' ∧ c ≠ '#' ∧ c ≠ '\t' ∧ c ≠ '\r' ∧ c ≠ '\n' :=
  ⟨ne_of_mem_of_not_mem hc ha.path.1, ne_of_mem_of_not_mem hc ha.path.2,
    (counted_eq_self_iff _).mp (ha.counted a.path (by simp)) c hc⟩

theorem plain_of_on
    (ha : a.Plain)
    (hbase : base.Plain)
    (hon : a.On base r) :
    r.written.Plain := by
  obtain ⟨-, hlocation, hquery, hfragment⟩ := parts_of_on hon
  have hpath : ∀ c ∈ r.written.path.toList,
      c ≠ '?' ∧ c ≠ '#' ∧ c ≠ '\t' ∧ c ≠ '\r' ∧ c ≠ '\n' := by
    intro c hc
    rcases mem_rooted hc with rfl | hmem
    · decide
    · rcases mem_path_of_on hon hmem with rfl | rfl | hown | hfrom
      · decide
      · decide
      · exact ha.pathChar hown
      · exact hbase.pathChar hfrom
  refine
    { path := ⟨fun hc => (hpath _ hc).1 rfl, fun hc => (hpath _ hc).2.1 rfl⟩
      query := ?_
      counted := ?_ }
  · rcases hquery with hown | hfrom
    · exact hown ▸ ha.query
    · exact hfrom ▸ hbase.query
  · have hown := ha.counted
    have hfrom := hbase.counted
    simp only [List.forall_mem_cons] at hown hfrom ⊢
    refine ⟨?_, ?_, ?_, hfragment ▸ hown.2.2.2.1, List.forall_mem_nil _⟩
    · change counted r.location.toList = r.location.toList
      rw [hlocation]
      split
      · exact hfrom.1
      · exact hown.1
    · exact (counted_eq_self_iff _).mpr fun c hc => (hpath c hc).2.2
    · rcases hquery with hsame | hsame
      · exact hsame ▸ hown.2.2.1
      · exact hsame ▸ hfrom.2.2.1

theorem hosted_of_on
    {text address : String}
    (htext : Address.parse text = .ok base)
    (hlocation : base.location ≠ "")
    (haddress : Address.parse address = .ok a)
    (hon : a.On base r) :
    r.written.Hosted := by
  obtain ⟨hscheme, hplace, -, -⟩ := parts_of_on hon
  have hbase := hosted_of_parse htext hlocation
  obtain ⟨source, hsource, hfrom⟩ : ∃ source : Address, source.Hosted ∧ r.location = source.location := by
    rw [hplace]
    split
    · exact ⟨base, hbase, rfl⟩
    · next hown => exact ⟨a, hosted_of_parse haddress hown, rfl⟩
  refine
    { plain_of_on (plain_of_parse haddress) hbase.toPlain hon with
      hosted := hfrom ▸ hsource.hosted
      scheme := hscheme ▸ hbase.scheme
      location := hfrom ▸ hsource.location
      brackets := hfrom ▸ hsource.brackets
      undisguised := hfrom ▸ hsource.undisguised
      rooted := rooted_begins r.path }

end Full

section Result

theorem parse_empty :
    Address.parse "" = .ok ⟨"", "", "", "", ""⟩ :=
  rfl

/-- From a base with a location, an address leads to itself or to one with a location. -/
theorem full_of_resolves
    {base address result : String}
    {b : Address}
    (hb : Address.parse base = .ok b)
    (hscheme : b.scheme ∈ relativeSchemes)
    (hlocation : b.location ≠ "")
    (h : Resolves base address result) :
    Full b address result := by
  cases h with
  | alone hbase =>
      rw [hbase, parse_empty] at hb
      cases hb
      exact absurd rfl hlocation
  | nothing hbase haddress =>
      subst haddress
      exact .based parse_empty hb rfl rfl
  | foreign hsome hb' ha hforeign =>
      obtain rfl := Except.ok.inj (hb.symm.trans hb')
      refine .own ha ?_
      rw [← not_or]
      exact fun hown => hforeign ⟨hown, hscheme⟩
  | @joined _ _ r hsome hb' ha hgoes hon =>
      obtain rfl := Except.ok.inj (hb.symm.trans hb')
      obtain ⟨hsame, hplace, -, -⟩ := parts_of_on hon
      have hosted := hosted_of_on hb hlocation ha hon
      have hread : Address.parse r.text = .ok r.written := by
        rw [← text_written (show r.location ≠ "" from hosted.hosted)]
        exact parse_text hosted
      exact .based ha hread hsame hplace

end Result

end Url
end PageScripts
