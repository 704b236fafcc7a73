import PageScripts.Proofs.Url.ReadBack
import PageScripts.Url.Version

/-!
# Only the version is taken off an address

The pairs of a query that mean the version are taken out of an address, and what is left is put together
again.  Empty pairs are left out as well.

* `FirstVersion`: the version that the pairs of a query give.
* `kept`: the pairs that stay; `pieces_keptQuery`: they are the pairs of the new query.
* `hosted_withQuery`: an address with another query is read back, if that query has no mark of its own.

**Result.**  `version_taken_off`: the address that is left has the parts of the given one, but for the
pairs of the version, and has no version.
-/

namespace PageScripts
namespace Url

section Defs

/-- The key of a pair, decoded. -/
def pairKey (pair : List Char) : List Char :=
  decodeQuery (Text.cutFirst '=' pair).1

/-- The version that pairs give: the first decoded value under the key of the version that is not empty,
if there is one. -/
inductive FirstVersion (pairs : List (List Char)) : Option String → Prop
  | none
      (hempty : ∀ pair ∈ pairs, pairKey pair = ['v', 'e', 'r'] → pairValue pair = []) :
      FirstVersion pairs none
  | some
      {earlier later : List (List Char)}
      {pair : List Char}
      {version : String}
      (hpairs : pairs = earlier ++ pair :: later)
      (hkey : pairKey pair = ['v', 'e', 'r'])
      (hvalue : pairValue pair = version.toList)
      (hsome : version ≠ "")
      (hempty : ∀ other ∈ earlier, pairKey other = ['v', 'e', 'r'] → pairValue other = []) :
      FirstVersion pairs (some version)

/-- The pairs of a query that are neither empty nor mean the version, as they are written. -/
def kept (query : String) : List (List Char) :=
  (Text.pieces '&' query.toList).filter fun pair => pair ≠ [] ∧ pairKey pair ≠ ['v', 'e', 'r']

/-- The query of these pairs. -/
def keptQuery (query : String) : String :=
  String.ofList (Text.joinPieces '&' (kept query))

end Defs

section Versions

theorem isVersionPair_iff (pair : List Char) :
    isVersionPair pair = true ↔ pairKey pair = ['v', 'e', 'r'] := by
  unfold isVersionPair pairKey
  exact decide_eq_true_iff

theorem FirstVersion.cons
    {pairs : List (List Char)}
    {version : Option String}
    (h : FirstVersion pairs version)
    {pair : List Char}
    (hpair : pairKey pair = ['v', 'e', 'r'] → pairValue pair = []) :
    FirstVersion (pair :: pairs) version := by
  cases h with
  | none hempty =>
      exact .none (List.forall_mem_cons.mpr ⟨hpair, hempty⟩)
  | @some earlier later found version hpairs hkey hvalue hsome hempty =>
      have hlonger : pair :: pairs = (pair :: earlier) ++ found :: later := by
        rw [hpairs]
        rfl
      exact .some hlonger hkey hvalue hsome (List.forall_mem_cons.mpr ⟨hpair, hempty⟩)

/-- The version of pairs is found where it stands first. -/
theorem firstVersion_of_pairs (pairs : List (List Char)) :
    FirstVersion pairs
      ((((pairs.filter isVersionPair).map pairValue).find? (!·.isEmpty)).map String.ofList) := by
  induction pairs with
  | nil =>
      exact .none fun pair hpair => absurd hpair List.not_mem_nil
  | cons pair rest ih =>
      by_cases hversion : isVersionPair pair = true
      · rw [List.filter_cons, if_pos hversion, List.map_cons, List.find?_cons]
        cases hvalue : pairValue pair with
        | nil =>
            exact ih.cons fun _ => hvalue
        | cons c value =>
            have hfirst : pair :: rest = [] ++ pair :: rest := rfl
            refine .some hfirst ((isVersionPair_iff pair).mp hversion) ?_ ?_ ?_
            · rw [hvalue, String.toList_ofList]
            · exact fun hempty => absurd (String.ofList_eq_empty_iff.mp hempty) (List.cons_ne_nil c value)
            · exact fun other hother => absurd hother List.not_mem_nil
      · rw [List.filter_cons, if_neg hversion]
        exact ih.cons fun hkey => absurd ((isVersionPair_iff pair).mpr hkey) hversion

end Versions

section Kept

theorem otherPairs_eq (query : String) :
    otherPairs query = kept query := by
  unfold otherPairs queryPairs kept
  apply List.filter_congr
  intro pair _
  rw [Bool.eq_iff_iff]
  simp [← isVersionPair_iff, and_comm]

theorem mem_kept
    {query : String}
    {pair : List Char}
    (h : pair ∈ kept query) :
    pair ≠ [] ∧ pairKey pair ≠ ['v', 'e', 'r'] :=
  of_decide_eq_true (List.mem_filter.mp h).2

/-- The pairs that are kept are the pairs of the query that they make, or there are none. -/
theorem pieces_keptQuery (query : String) :
    Text.pieces '&' (keptQuery query).toList = if kept query = [] then [[]] else kept query := by
  rw [keptQuery, String.toList_ofList]
  split
  · next hnone =>
      rw [hnone]
      rfl
  · next hsome =>
      refine Text.pieces_joinPieces hsome fun pair hpair => ?_
      exact Text.not_mem_of_mem_pieces '&' query.toList pair (List.mem_filter.mp hpair).1

/-- No pair of the new query means the version. -/
theorem not_isVersionPair_of_keptQuery
    {query : String}
    {pair : List Char}
    (h : pair ∈ Text.pieces '&' (keptQuery query).toList) :
    isVersionPair pair = false := by
  rw [pieces_keptQuery] at h
  split at h
  · rw [List.mem_singleton.mp h]
    decide +kernel
  · rw [← Bool.not_eq_true, isVersionPair_iff]
    exact (mem_kept h).2

/-- To keep pairs twice is to keep them once. -/
theorem kept_keptQuery (query : String) :
    kept (keptQuery query) = kept query := by
  have hself : (kept query).filter (fun pair => pair ≠ [] ∧ pairKey pair ≠ ['v', 'e', 'r']) =
      kept query := by
    unfold kept
    rw [List.filter_filter]
    simp only [Bool.and_self]
  rw [kept, pieces_keptQuery]
  split
  · next hnone =>
      rw [hnone]
      rfl
  · exact hself

theorem versionOf?_keptQuery (query : String) :
    versionOf? (keptQuery query) = none := by
  have hnone : (queryPairs (keptQuery query)).filter isVersionPair = [] := by
    rw [List.filter_eq_nil_iff]
    intro pair hpair
    rw [not_isVersionPair_of_keptQuery hpair]
    decide
  unfold versionOf?
  rw [hnone]
  rfl

/-- The new query has the characters of the old one. -/
theorem mem_of_mem_keptQuery
    {query : String}
    {c : Char}
    (h : c ∈ (keptQuery query).toList) :
    c = '&' ∨ c ∈ query.toList := by
  rw [keptQuery, String.toList_ofList] at h
  refine (Text.mem_joinPieces h).imp_right ?_
  rintro ⟨pair, hpair, hc⟩
  exact Text.mem_of_mem_pieces (List.mem_filter.mp hpair).1 hc

end Kept

section Splitting

variable {a : Address}

/-- An address may be given another query, if that holds nothing that would end it. -/
theorem hosted_withQuery
    (hosted : a.Hosted)
    {query : String}
    (hmark : '#' ∉ query.toList)
    (hcounted : counted query.toList = query.toList) :
    { a with query }.Hosted :=
  { hosted with
    query := hmark
    counted := by
      have hparts := hosted.counted
      simp only [List.forall_mem_cons] at hparts ⊢
      exact ⟨hparts.1, hparts.2.1, hcounted, hparts.2.2.2⟩ }

theorem hosted_withKeptQuery (hosted : a.Hosted) :
    { a with query := keptQuery a.query }.Hosted := by
  refine hosted_withQuery hosted ?_ ?_
  · intro hmem
    rcases mem_of_mem_keptQuery hmem with hmark | hold
    · exact absurd hmark (by decide)
    · exact hosted.query hold
  · rw [counted_eq_self_iff]
    intro c hc
    rcases mem_of_mem_keptQuery hc with rfl | hold
    · decide
    · exact (counted_eq_self_iff _).mp (hosted.counted a.query (by simp)) c hold

theorem splitVersion_eq
    {s : String}
    (h : Address.parse s = .ok a) :
    splitVersion s =
      .ok (Address.text { a with query := keptQuery a.query }, versionOf? a.query) := by
  unfold splitVersion
  rw [h]
  simp only [otherPairs_eq]
  rfl

end Splitting

/-- What is taken off an address.  Let an address be read that has a location.  Then its version can be
split off.
* The rest is read as the same address, but for its query: that is made of the pairs that are neither
  empty nor have the key of the version, as they are written and in order.
* The version is the first decoded value under that key that is not empty, if there is one.
* From the rest nothing is taken off any more. -/
theorem version_taken_off
    {s : String}
    {a : Address}
    (h : Address.parse s = .ok a)
    (hlocation : a.location ≠ "") :
    ∃ rest version,
      splitVersion s = .ok (rest, version) ∧
      Address.parse rest = .ok { a with query := keptQuery a.query } ∧
      FirstVersion (Text.pieces '&' a.query.toList) version ∧
      splitVersion rest = .ok (rest, none) := by
  have hosted := hosted_withKeptQuery (hosted_of_parse h hlocation)
  have hrest := parse_text hosted
  refine ⟨_, _, splitVersion_eq h, hrest, firstVersion_of_pairs _, ?_⟩
  have hagain : keptQuery (keptQuery a.query) = keptQuery a.query := by
    rw [keptQuery, kept_keptQuery]
    rfl
  rw [splitVersion_eq hrest, versionOf?_keptQuery]
  simp only [hagain]

/-- An address with an encoded key, an empty version before others, empty pairs and a fragment. -/
theorem version_taken_off_encoded :
    ∃ rest,
      splitVersion " HTTPS://u@[::1]:8/a%20b;p?&ver=&x=1+2&%76er=3%2E7&ver=9&flag&#f?g" =
        .ok (rest, some "3.7") ∧
      Address.parse rest =
        .ok
          { scheme := "https", location := "u@[::1]:8", path := "/a%20b;p", query := "x=1+2&flag",
            fragment := "f?g" } := by
  have hparse : Address.parse " HTTPS://u@[::1]:8/a%20b;p?&ver=&x=1+2&%76er=3%2E7&ver=9&flag&#f?g" =
      .ok
        { scheme := "https", location := "u@[::1]:8", path := "/a%20b;p",
          query := "&ver=&x=1+2&%76er=3%2E7&ver=9&flag&", fragment := "f?g" } := rfl
  have hquery : keptQuery "&ver=&x=1+2&%76er=3%2E7&ver=9&flag&" = "x=1+2&flag" := by
    decide +kernel
  have hversion : versionOf? "&ver=&x=1+2&%76er=3%2E7&ver=9&flag&" = some "3.7" := by
    decide +kernel
  obtain ⟨rest, version, hsplit, hrest, -, -⟩ := version_taken_off hparse (by decide)
  obtain rfl : version = some "3.7" := by
    have hsame := hsplit.symm.trans (splitVersion_eq hparse)
    rw [hversion] at hsame
    exact (Prod.mk.inj (Except.ok.inj hsame)).2
  exact ⟨rest, hsplit, hquery ▸ hrest⟩

end Url
end PageScripts
