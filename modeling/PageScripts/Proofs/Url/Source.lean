import PageScripts.Proofs.Url.ReadBack

/-!
# The addresses of page scripts

The full address of a page script is recognised by reading it: its scheme is that of the web, there is
a network location, and there is no blank.  Here the texts that are recognised are said without the
reader.

* `WebText`: how the text of a web address is made up; controls may stand before it.
* `views_of_webText`, `webText_of_views`: it is read as it is made up.
* `isSourceUrl_iff`: just these texts are recognised, if there is a location, in order, and no blank.
* `hostOf`: the host of a location.  `hostOf_eq_nil_iff`: a location may have none, and be in order.
* `IsWebAddress`: a web address as it should be, with nothing before it, a host, and neither blanks nor
  controls.

**Result.**  `source_urls_exact`: which texts are recognised, and which of these are such web addresses.
`sources_beside_the_web`: some that are recognised, and are not.
-/

namespace PageScripts
namespace Url

section Defs

/-- How the text of a web address is made up: perhaps controls and spaces in front, the scheme in any
case, the location behind two slashes, and what follows that from a mark on. -/
structure WebText (cs front scheme location tail : List Char) : Prop where
  whole : cs = front ++ (scheme ++ ':' :: '/' :: '/' :: (location ++ tail))
  before : ∀ c ∈ front, c.toNat ≤ 0x20
  ofWeb :
    scheme.map Char.toLower = "http".toList ∨ scheme.map Char.toLower = "https".toList
  inside : ∀ c ∈ location, endsLocation c = false
  marked : ∀ c, tail.head? = some c → endsLocation c = true

/-- The host of a location, without the user part and the port. -/
def hostOf (location : List Char) : List Char :=
  let hostPort := (Text.cutLast '@' location).2
  match Text.cutFirst '[' hostPort with
  | (_, some bracketed) => (Text.cutFirst ']' bracketed).1
  | (_, none) => (Text.cutFirst ':' hostPort).1

/-- Whether a character is a control. -/
def isControl (c : Char) : Bool :=
  c.toNat < 0x20 || (0x7F ≤ c.toNat && c.toNat < 0xA0)

/-- A web address as it should be: its text begins with the scheme, it has a host, and there are
neither blanks nor controls in it. -/
def IsWebAddress (s : String) : Prop :=
  (∃ scheme location tail, WebText s.toList [] scheme location tail ∧ hostOf location ≠ []) ∧
  ∀ c ∈ s.toList, Text.isBlank c = false ∧ isControl c = false

end Defs

section Schemes

theorem isLetter_of_toLower
    {c : Char}
    (h : isLetter c.toLower = true) :
    isLetter c = true := by
  unfold Char.toLower at h
  split at h
  · next hupper =>
      simp only [isLetter, Bool.or_eq_true, Bool.and_eq_true, decide_eq_true_eq, Char.le_def]
      exact .inr hupper
  · exact h

/-- The scheme of a web address is made of letters. -/
theorem isLetter_of_web
    {scheme : List Char}
    (hscheme : scheme.map Char.toLower = "http".toList ∨ scheme.map Char.toLower = "https".toList)
    {c : Char}
    (hc : c ∈ scheme) :
    isLetter c = true := by
  have hlower : c.toLower ∈ scheme.map Char.toLower := List.mem_map_of_mem hc
  have hall : ∀ d, d ∈ "http".toList ∨ d ∈ "https".toList → isLetter d = true := by
    rintro d (hd | hd)
    · exact List.all_eq_true.mp (by decide) d hd
    · exact List.all_eq_true.mp (by decide) d hd
  refine isLetter_of_toLower (hall _ ?_)
  rcases hscheme with hscheme | hscheme
  · exact .inl (hscheme ▸ hlower)
  · exact .inr (hscheme ▸ hlower)

/-- What stands before the first colon is the scheme, if it is one as it is written. -/
theorem takeScheme_append_colon
    {written : List Char}
    (hcolon : ':' ∉ written)
    (rest : List Char) :
    takeScheme (written ++ ':' :: rest) =
      if (written.head?.any isLetter && written.tail.all isSchemeChar) = true then
        (written.map Char.toLower, rest)
      else
        ([], written ++ ':' :: rest) := by
  unfold takeScheme
  rw [Text.cutFirst_append_cons hcolon]
  cases written with
  | nil =>
      rfl
  | cons c head =>
      rfl

theorem lt_of_isLetter
    {c : Char}
    (h : isLetter c = true) :
    0x20 < c.toNat := by
  simp only [isLetter, Bool.or_eq_true, Bool.and_eq_true, decide_eq_true_eq, Char.le_def,
    UInt32.le_iff_toNat_le] at h
  rcases h with ⟨hlow, -⟩ | ⟨hlow, -⟩
  · exact Nat.lt_of_lt_of_le (by decide) hlow
  · exact Nat.lt_of_lt_of_le (by decide) hlow

theorem takeScheme_of_web
    {scheme : List Char}
    (hscheme : scheme.map Char.toLower = "http".toList ∨ scheme.map Char.toLower = "https".toList)
    (rest : List Char) :
    takeScheme (scheme ++ ':' :: rest) = (scheme.map Char.toLower, rest) := by
  have hletter : ∀ c ∈ scheme, isLetter c = true := fun c hc => isLetter_of_web hscheme hc
  have hcolon : ':' ∉ scheme := fun hmem => absurd (hletter ':' hmem) (by decide)
  rw [takeScheme_append_colon hcolon]
  refine if_pos ?_
  cases scheme with
  | nil =>
      rcases hscheme with hscheme | hscheme <;> cases hscheme
  | cons c rest =>
      obtain ⟨hc, hrest⟩ := List.forall_mem_cons.mp hletter
      have hchars : ∀ d ∈ rest, isSchemeChar d = true := fun d hd => by simp [isSchemeChar, hrest d hd]
      simpa [hc] using hchars

end Schemes

section Reading

variable {s : String}
variable (hblank : ∀ c ∈ s.toList, Text.isBlank c = false)

include hblank

/-- Of a text without blanks only controls at its start are left out. -/
theorem clean_of_unblank :
    clean s.toList = s.toList.dropWhile fun c => c.toNat ≤ 0x20 := by
  unfold clean
  rw [List.filter_eq_self]
  intro c hc
  have hnot := hblank c ((List.dropWhile_suffix _).subset hc)
  have hne : ∀ d, Text.isBlank d = true → c ≠ d := fun d hd heq => by simp [heq, hd] at hnot
  simp [hne '\t' (by decide), hne '\r' (by decide), hne '\n' (by decide)]

/-- The text of a web address is read as it is made up. -/
theorem views_of_webText
    {front scheme location tail : List Char}
    (web : WebText s.toList front scheme location tail) :
    (schemed s).1 = scheme.map Char.toLower ∧ located s = (location, tail) := by
  have hclean : clean s.toList = scheme ++ ':' :: '/' :: '/' :: (location ++ tail) := by
    rw [clean_of_unblank hblank, web.whole,
      List.dropWhile_append_of_pos fun c hc => decide_eq_true (web.before c hc)]
    cases hscheme : scheme with
    | nil =>
        rcases hscheme ▸ web.ofWeb with h | h <;> cases h
    | cons c rest =>
        have hc := lt_of_isLetter (isLetter_of_web web.ofWeb (hscheme ▸ List.mem_cons_self))
        exact List.dropWhile_cons_of_neg (by simpa using hc)
  have hschemed : schemed s =
      (scheme.map Char.toLower, '/' :: '/' :: (location ++ tail)) := by
    unfold schemed
    rw [hclean, takeScheme_of_web web.ofWeb]
  refine ⟨congrArg Prod.fst hschemed, ?_⟩
  unfold located
  rw [hschemed]
  exact takeLocation_of_inside web.inside web.marked

/-- A text that is read as a web address is made up as one. -/
theorem webText_of_views
    (hscheme : (schemed s).1 = "http".toList ∨ (schemed s).1 = "https".toList)
    (hlocation : (located s).1 ≠ []) :
    ∃ front scheme, WebText s.toList front scheme (located s).1 (located s).2 := by
  have hsome : (schemed s).1 ≠ [] := by
    rcases hscheme with hscheme | hscheme
    · rw [hscheme]
      decide
    · rw [hscheme]
      decide
  obtain ⟨scheme, hclean, hchars⟩ :
      ∃ scheme, clean s.toList = scheme ++ ':' :: (schemed s).2 ∧
        ∀ c ∈ scheme, isSchemeChar c = true :=
    eq_of_takeScheme rfl hsome
  obtain ⟨hrest, hinside, hmark⟩ :
      (schemed s).2 = '/' :: '/' :: ((located s).1 ++ (located s).2) ∧
        (∀ c ∈ (located s).1, endsLocation c = false) ∧
        ∀ c, (located s).2.head? = some c → endsLocation c = true :=
    eq_of_takeLocation rfl hlocation
  have hlower : (schemed s).1 = scheme.map Char.toLower := by
    have hcolon : ':' ∉ scheme := fun hmem => absurd (hchars ':' hmem) (by decide)
    have hread := takeScheme_append_colon hcolon (schemed s).2
    rw [← hclean] at hread
    split at hread
    · exact congrArg Prod.fst hread
    · exact absurd (congrArg Prod.fst hread) hsome
  refine ⟨s.toList.takeWhile fun c => c.toNat ≤ 0x20, scheme, ?_, ?_, hlower ▸ hscheme, hinside, hmark⟩
  · rw [← hrest, ← hclean, clean_of_unblank hblank]
    exact List.takeWhile_append_dropWhile.symm
  · intro c hc
    simpa using List.mem_takeWhile_imp hc

end Reading

section Hosts

/-- What is in order in brackets is not empty. -/
theorem ne_nil_of_isBracketedHost
    {host : List Char}
    (h : isBracketedHost host = true) :
    host ≠ [] := by
  rintro rfl
  exact absurd h (by decide)

theorem fst_cutFirst_eq_nil_iff
    (sep : Char)
    (cs : List Char) :
    (Text.cutFirst sep cs).1 = [] ↔ cs = [] ∨ cs.head? = some sep := by
  cases cs with
  | nil =>
      simp [Text.fst_cutFirst]
  | cons c rest =>
      rw [Text.cutFirst_cons]
      by_cases hc : c = sep <;> simp [hc]

/-- If there is a bracket behind the user part, it is there at once, and a host follows. -/
theorem host_of_checkBrackets
    {location before bracketed : List Char}
    (h : checkBrackets location = .ok ())
    (hcut : Text.cutFirst '[' (Text.cutLast '@' location).2 = (before, some bracketed)) :
    before = [] ∧ isBracketedHost (Text.cutFirst ']' bracketed).1 = true := by
  have hopened : location.contains '[' = true := by
    have hmem : '[' ∈ (Text.cutLast '@' location).2 := by
      rw [Text.eq_of_cutFirst hcut]
      simp
    rw [List.contains_iff_mem, ← List.mem_reverse]
    exact Text.mem_of_cutFirst (.inl (List.mem_reverse.mp hmem))
  unfold checkBrackets at h
  rw [hopened] at h
  cases hclosed : location.contains ']' with
  | false =>
      rw [hclosed] at h
      cases h
  | true =>
      simp only [hclosed, hcut] at h
      split at h
      · cases h
      · next hplace =>
          split at h
          · next hhost =>
              refine ⟨?_, hhost⟩
              by_contra hbefore
              exact hplace (by simp [hbefore])
          · cases h

/-- A location that is in order has no host just if nothing or a colon stands behind its user part. -/
theorem hostOf_eq_nil_iff
    {location : List Char}
    (h : checkBrackets location = .ok ()) :
    hostOf location = [] ↔
      (Text.cutLast '@' location).2 = [] ∨ (Text.cutLast '@' location).2.head? = some ':' := by
  unfold hostOf
  rcases hcut : Text.cutFirst '[' (Text.cutLast '@' location).2 with ⟨before, _ | bracketed⟩
  · simp only [hcut]
    exact fst_cutFirst_eq_nil_iff ':' _
  · obtain ⟨rfl, hhost⟩ := host_of_checkBrackets h hcut
    refine iff_of_false ?_ ?_
    · simp only [hcut]
      exact ne_nil_of_isBracketedHost hhost
    · rw [Text.eq_of_cutFirst hcut]
      simp

end Hosts

section Sources

variable {s : String}

/-- A text is recognised by what is read off it. -/
theorem isSourceUrl_iff_views (s : String) :
    isSourceUrl s = true ↔
      (∀ c ∈ s.toList, Text.isBlank c = false) ∧
      ((schemed s).1 = "http".toList ∨ (schemed s).1 = "https".toList) ∧
      (located s).1 ≠ [] ∧
      checkBrackets (located s).1 = .ok () ∧
      hasDisguisedMark (located s).1 = false := by
  unfold isSourceUrl
  split
  · next hbad =>
      refine iff_of_false (by decide) ?_
      rintro ⟨hblank, -, hlocation, -⟩
      rcases hbad with rfl | hsome
      · exact hlocation rfl
      · obtain ⟨c, hc, hbad⟩ := List.any_eq_true.mp hsome
        rw [hblank c hc] at hbad
        cases hbad
  · next hgood =>
      have hblank : ∀ c ∈ s.toList, Text.isBlank c = false := by
        intro c hc
        rw [← Bool.not_eq_true]
        exact fun hbad => hgood (.inr (List.any_eq_true.mpr ⟨c, hc, hbad⟩))
      have hscheme (word : String) :
          String.ofList (schemed s).1 = word ↔ (schemed s).1 = word.toList := by
        rw [← String.toList_inj, String.toList_ofList]
      rw [parse_eq, and_iff_right hblank]
      cases checkBrackets (located s).1 with
      | error fault =>
          simp [bind, Except.bind]
      | ok done =>
          by_cases hplain : hasDisguisedMark (located s).1 = true
          · simp [bind, Except.bind, hplain]
          · simp [bind, Except.bind, hplain, hscheme]

/-- A recognised text is made up as a web address, and its location is in order. -/
structure SourceText (cs front scheme location tail : List Char) : Prop
    extends WebText cs front scheme location tail where
  hosted : location ≠ []
  brackets : checkBrackets location = .ok ()
  undisguised : hasDisguisedMark location = false
  unblank : ∀ c ∈ cs, Text.isBlank c = false

theorem isSourceUrl_iff (s : String) :
    isSourceUrl s = true ↔
      ∃ front scheme location tail, SourceText s.toList front scheme location tail := by
  rw [isSourceUrl_iff_views]
  constructor
  · rintro ⟨hblank, hscheme, hlocation, hbrackets, hplain⟩
    obtain ⟨front, scheme, web⟩ := webText_of_views hblank hscheme hlocation
    exact ⟨front, scheme, _, _, web, hlocation, hbrackets, hplain, hblank⟩
  · rintro ⟨front, scheme, location, tail, source⟩
    obtain ⟨hscheme, hlocated⟩ := views_of_webText source.unblank source.toWebText
    rw [hscheme, hlocated]
    exact ⟨source.unblank, source.ofWeb, source.hosted, source.brackets, source.undisguised⟩

/-- Controls may stand in front of a text without blanks, and no spaces. -/
theorem isControl_of_front
    {c : Char}
    (hcode : c.toNat ≤ 0x20)
    (hblank : Text.isBlank c = false) :
    isControl c = true := by
  have hspace : c.toNat ≠ 0x20 := by
    intro heq
    rw [show c = ' ' from Char.toNat_inj.mp heq] at hblank
    exact absurd hblank (by decide)
  unfold isControl
  rw [Bool.or_eq_true, decide_eq_true_iff]
  exact .inl (Nat.lt_of_le_of_ne hcode hspace)

/-- A recognised text is a web address as it should be just if it has a host and no controls. -/
theorem isWebAddress_iff
    {front scheme location tail : List Char}
    (source : SourceText s.toList front scheme location tail) :
    IsWebAddress s ↔ hostOf location ≠ [] ∧ ∀ c ∈ s.toList, isControl c = false := by
  obtain ⟨-, hlocated⟩ := views_of_webText source.unblank source.toWebText
  constructor
  · rintro ⟨⟨scheme', location', tail', web, hhost⟩, hclean⟩
    obtain ⟨-, hlocated'⟩ := views_of_webText source.unblank web
    obtain ⟨rfl, -⟩ := Prod.mk.inj (hlocated.symm.trans hlocated')
    exact ⟨hhost, fun c hc => (hclean c hc).2⟩
  · rintro ⟨hhost, hcontrol⟩
    have hfront : front = [] := by
      rw [List.eq_nil_iff_forall_not_mem]
      intro c hc
      have hmem : c ∈ s.toList := source.whole ▸ List.mem_append_left _ hc
      have hsome := isControl_of_front (source.before c hc) (source.unblank c hmem)
      rw [hcontrol c hmem] at hsome
      cases hsome
    refine ⟨⟨scheme, location, tail, hfront ▸ source.toWebText, hhost⟩, fun c hc => ?_⟩
    exact ⟨source.unblank c hc, hcontrol c hc⟩

end Sources

/-- Which texts are recognised as the address of a page script.
* Just those that are made up as a web address, without blanks, and with a location that is in order.
* Such a text is a web address as it should be if it has a host and no controls.
* It has no host if behind the user part there is nothing or a colon. -/
theorem source_urls_exact (s : String) :
    (isSourceUrl s = true ↔
      ∃ front scheme location tail, SourceText s.toList front scheme location tail) ∧
    ∀ front scheme location tail,
      SourceText s.toList front scheme location tail →
      (IsWebAddress s ↔ hostOf location ≠ [] ∧ ∀ c ∈ s.toList, isControl c = false) ∧
      (hostOf location = [] ↔
        (Text.cutLast '@' location).2 = [] ∨ (Text.cutLast '@' location).2.head? = some ':') := by
  refine ⟨isSourceUrl_iff s, fun front scheme location tail source => ?_⟩
  exact ⟨isWebAddress_iff source, hostOf_eq_nil_iff source.brackets⟩

/-- An address with a scheme in capital letters, a user part, a numeric host and a port. -/
theorem source_urls_exact_numeric :
    SourceText "HTTPS://me@[::1]:8/a.js?b".toList [] "HTTPS".toList "me@[::1]:8".toList
      "/a.js?b".toList ∧
    isSourceUrl "HTTPS://me@[::1]:8/a.js?b" = true ∧
    IsWebAddress "HTTPS://me@[::1]:8/a.js?b" := by
  have source : SourceText "HTTPS://me@[::1]:8/a.js?b".toList [] "HTTPS".toList
      "me@[::1]:8".toList "/a.js?b".toList :=
    { whole := rfl
      before := List.forall_mem_nil _
      ofWeb := .inr rfl
      inside := by simp [endsLocation]
      marked := by rintro c ⟨⟩; rfl
      hosted := List.cons_ne_nil _ _
      brackets := rfl
      undisguised := by decide +kernel
      unblank := by simp [Text.isBlank] }
  obtain ⟨hiff, hsource⟩ := source_urls_exact "HTTPS://me@[::1]:8/a.js?b"
  refine ⟨source, hiff.mpr ⟨_, _, _, _, source⟩, (hsource _ _ _ _ source).1.mpr ⟨?_, ?_⟩⟩
  · decide
  · simp [isControl]

/-- Two texts are recognised that are no such web addresses: one has a port and no host, and before the
other there is a control. -/
theorem sources_beside_the_web :
    (isSourceUrl "https://:80/x.js" = true ∧ ¬ IsWebAddress "https://:80/x.js") ∧
    (isSourceUrl "\x01https://a.b/x.js" = true ∧ ¬ IsWebAddress "\x01https://a.b/x.js") := by
  have hostless : SourceText "https://:80/x.js".toList [] "https".toList ":80".toList
      "/x.js".toList :=
    { whole := rfl
      before := List.forall_mem_nil _
      ofWeb := .inr rfl
      inside := by simp [endsLocation]
      marked := by rintro c ⟨⟩; rfl
      hosted := List.cons_ne_nil _ _
      brackets := rfl
      undisguised := by decide +kernel
      unblank := by simp [Text.isBlank] }
  refine ⟨⟨(isSourceUrl_iff _).mpr ⟨_, _, _, _, hostless⟩, ?_⟩, by decide +kernel, ?_⟩
  · rw [isWebAddress_iff hostless]
    exact fun h => h.1 (by decide)
  · rintro ⟨-, hclean⟩
    exact absurd (hclean '\x01' (by decide)).2 (by decide)

end Url
end PageScripts
