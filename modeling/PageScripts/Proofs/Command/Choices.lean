import PageScripts.Command.Usage
import PageScripts.Proofs.Listing
import PageScripts.Proofs.Result

/-!
# Choices on the command line

Some options and operands take only one of some words.  The words are checked one argument after
another, where an option may be shortened, stand with other short options, or carry its value along.
However the arguments are written, what is read under the key of such an option or operand are words
of its choice.

* `Grammar.Offers grammar key choices`: whatever is read under the key is checked.
* `chosen_of_readArguments`: so the values that come out have been chosen.
* `catalog_of_parse`: the rules of discovered scripts cannot be asked for.
-/

namespace PageScripts
namespace Command

section Defs

/-- Whatever a grammar reads under a key has these choices. -/
structure Grammar.Offers
    (grammar : Grammar)
    (key : String)
    (choices : List String) : Prop where
  options : ∀ spec ∈ grammar.options, spec.key = key → spec.choices = choices
  operands : ∀ operand ∈ grammar.operands, operand.key = key →
    operand.choices = choices ∧ operand.kind ≠ .command

/-- The words under a key are among the choices. -/
def Chosen
    (key : String)
    (choices : List String)
    (values : Values) : Prop :=
  ∀ words, values.value? key = some words → allowed choices words = true

/-- The options that were found are those of the grammar. -/
def Sorted
    (grammar : Grammar)
    (pieces : List Piece) : Prop :=
  ∀ text found, Piece.option text (some found) ∈ pieces → found.spec ∈ grammar.options

end Defs

variable {grammar : Grammar}

section Sorting

theorem Sorted.mono
    {pieces fewer : List Piece}
    (h : Sorted grammar pieces)
    (hsub : fewer ⊆ pieces) :
    Sorted grammar fewer :=
  fun text found hmem => h text found (hsub hmem)

theorem mem_options_of_named
    {name : String}
    {spec : OptionSpec}
    (h : (name, spec) ∈ grammar.named) :
    spec ∈ grammar.options := by
  obtain ⟨other, hother, hname⟩ := List.mem_flatMap.mp h
  obtain ⟨_, -, heq⟩ := List.mem_map.mp hname
  cases heq
  exact hother

theorem mem_options_of_value?
    {name : String}
    {spec : OptionSpec}
    (h : grammar.named.value? name = some spec) :
    spec ∈ grammar.options :=
  mem_options_of_named (Listing.mem_of_value? h)

theorem mem_options_of_exactOption?
    {argument : String}
    {found : Found}
    (h : exactOption? grammar argument = some found) :
    found.spec ∈ grammar.options := by
  unfold exactOption? at h
  split at h
  · rename_i spec hspec
    cases h
    exact mem_options_of_value? hspec
  · split at h
    · obtain ⟨spec, hspec, rfl⟩ := Option.map_eq_some_iff.mp h
      exact mem_options_of_value? hspec
    · cases h

theorem mem_options_of_candidates
    {argument : String}
    {found : Found}
    (h : found ∈ candidates grammar argument) :
    found.spec ∈ grammar.options := by
  unfold candidates at h
  simp only at h
  split at h
  · obtain ⟨⟨name, spec⟩, hnamed, hfound⟩ := List.mem_filterMap.mp h
    split at hfound
    · cases hfound
      exact mem_options_of_named hnamed
    · cases hfound
  · obtain ⟨⟨name, spec⟩, hnamed, hfound⟩ := List.mem_filterMap.mp h
    simp only at hfound
    split at hfound
    · cases hfound
      exact mem_options_of_named hnamed
    · split at hfound
      · cases hfound
        exact mem_options_of_named hnamed
      · cases hfound

theorem mem_options_of_pieceOf
    {argument text : String}
    {found : Found}
    (h : pieceOf grammar argument = .ok (.option text (some found))) :
    found.spec ∈ grammar.options := by
  unfold pieceOf at h
  split at h
  · cases h
  · split at h
    · rename_i exact hexact
      cases h
      exact mem_options_of_exactOption? hexact
    · split at h
      · cases h
      · split at h
        · rename_i only honly
          cases h
          exact mem_options_of_candidates (honly ▸ List.mem_singleton.mpr rfl)
        · split at h <;> cases h
        · cases h

theorem sorted_of_piecesOf
    {arguments : List String}
    {pieces : List Piece}
    (h : piecesOf grammar arguments = .ok pieces) :
    Sorted grammar pieces := by
  induction arguments generalizing pieces with
  | nil =>
      cases h
      intro text found hmem
      cases hmem
  | cons argument rest ih =>
      unfold piecesOf at h
      split at h
      · cases h
        intro text found hmem
        rcases List.mem_cons.mp hmem with hdivider | hword
        · cases hdivider
        · obtain ⟨word, -, heq⟩ := List.mem_map.mp hword
          cases heq
      · obtain ⟨piece, hpiece, hrest⟩ := ok_of_bind h
        obtain ⟨more, hmore, hpieces⟩ := ok_of_bind hrest
        cases hpieces
        intro text found hmem
        rcases List.mem_cons.mp hmem with rfl | hmem
        · exact mem_options_of_pieceOf hpiece
        · exact ih hmore text found hmem

end Sorting

section Taking

/-- What is left of arguments was among them. -/
theorem takeWords_subset (pieces : List Piece) :
    (takeWords pieces).2 ⊆ pieces := by
  fun_induction takeWords pieces with
  | case1 text rest texts left hleft ih =>
      rw [hleft] at ih
      exact List.subset_cons_of_subset _ ih
  | case2 =>
      exact List.Subset.refl _

theorem takePlain_subset (pieces : List Piece) :
    (takePlain pieces).2 ⊆ pieces := by
  fun_induction takePlain pieces with
  | case1 text rest texts left hleft ih | case2 rest texts left hleft ih =>
      rw [hleft] at ih
      exact List.subset_cons_of_subset _ ih
  | case3 =>
      exact List.Subset.refl _

theorem takeDividers_subset (pieces : List Piece) :
    (takeDividers pieces).2 ⊆ pieces := by
  fun_induction takeDividers pieces with
  | case1 rest texts left hleft ih =>
      rw [hleft] at ih
      exact List.subset_cons_of_subset _ ih
  | case2 =>
      exact List.Subset.refl _

theorem takeOperand_subset
    {kind : OperandKind}
    {pieces left : List Piece}
    {words : List String}
    (h : takeOperand kind pieces = some (words, left)) :
    left ⊆ pieces := by
  unfold takeOperand at h
  have hbefore := takeDividers_subset pieces
  rcases hdividers : takeDividers pieces with ⟨before, rest⟩
  rw [hdividers] at h hbefore
  simp only at h
  split at h
  · cases h
    exact List.Subset.trans
      (List.Subset.trans (takeDividers_subset _) (List.subset_cons_self _ _)) hbefore
  · cases h
    exact List.Subset.trans
      (List.Subset.trans (takeDividers_subset _) (List.subset_cons_self _ _)) hbefore
  · cases h
    exact hbefore
  · cases h
    exact List.Subset.trans
      (List.Subset.trans (takePlain_subset _) (List.subset_cons_self _ _)) hbefore
  · cases h
    exact List.nil_subset _
  · cases h

end Taking

section Values

variable {key : String}
variable {choices : List String}

theorem Chosen.put
    {values : Values}
    (h : Chosen key choices values)
    {other : String}
    {words : List String}
    (hwords : other = key → allowed choices words = true) :
    Chosen key choices (values.put other words) := by
  intro found hfound
  rw [Listing.value?_put] at hfound
  split at hfound
  · cases hfound
    exact hwords ‹_›
  · exact h found hfound

variable (hoffers : grammar.Offers key choices)

include hoffers

/-- An option that is taken over has words of its choice. -/
theorem chosen_of_applyOption
    {values after : Values}
    {entry : OptionSpec × List String}
    (hentry : entry.1 ∈ grammar.options)
    (hvalues : Chosen key choices values)
    (h : applyOption values entry = .ok after) :
    Chosen key choices after := by
  obtain ⟨spec, words⟩ := entry
  unfold applyOption at h
  simp only at h
  split at h
  · cases h
  · rename_i hallowed
    split at h
    · cases h
    · cases h
      refine hvalues.put fun hkey => ?_
      rw [← hoffers.options spec hentry hkey]
      simp only [not_or, Bool.not_eq_true', Bool.not_eq_false] at hallowed
      exact hallowed.1

theorem chosen_of_applyOptions
    {entries : List (OptionSpec × List String)}
    {values after : Values}
    (hentries : ∀ entry ∈ entries, entry.1 ∈ grammar.options)
    (hvalues : Chosen key choices values)
    (h : entries.foldlM applyOption values = .ok after) :
    Chosen key choices after := by
  induction entries generalizing values with
  | nil =>
      cases h
      exact hvalues
  | cons entry rest ih =>
      rw [List.foldlM_cons] at h
      obtain ⟨next, hnext, hrest⟩ := ok_of_bind h
      refine ih (fun other hother => hentries other (List.mem_cons_of_mem entry hother)) ?_ hrest
      exact chosen_of_applyOption hoffers (hentries entry List.mem_cons_self) hvalues hnext

/-- Operands that are taken have words of their choices. -/
theorem chosen_of_takeOperands
    {operands more : List Operand}
    {pieces left : List Piece}
    {values after : Values}
    (hoperands : operands ⊆ grammar.operands)
    (hvalues : Chosen key choices values)
    (h : takeOperands values pieces operands = .ok (after, left, more)) :
    Chosen key choices after ∧ left ⊆ pieces ∧ more ⊆ operands := by
  induction operands generalizing values pieces with
  | nil =>
      cases h
      exact ⟨hvalues, List.Subset.refl _, List.Subset.refl _⟩
  | cons operand rest ih =>
      unfold takeOperands at h
      split at h
      · cases h
        exact ⟨hvalues, List.Subset.refl _, List.Subset.refl _⟩
      · rename_i arguments remaining htake
        simp only at h
        generalize hwords : operandWords operand.kind arguments = words at h
        by_cases hallowed : allowed operand.choices
            (if operand.kind = .command then words.take 1 else words) = true
        · rw [if_pos hallowed] at h
          have hnext : Chosen key choices (values.put operand.key words) := by
            refine hvalues.put fun hkey => ?_
            obtain ⟨hchoices, hkind⟩ := hoffers.operands operand (hoperands List.mem_cons_self) hkey
            rw [if_neg hkind, hchoices] at hallowed
            exact hallowed
          obtain ⟨hafter, hleft, hmore⟩ :=
            ih (fun other hother => hoperands (List.mem_cons_of_mem operand hother)) hnext h
          exact ⟨hafter, List.Subset.trans hleft (takeOperand_subset htake),
            List.subset_cons_of_subset operand hmore⟩
        · rw [if_neg hallowed] at h
          cases h

end Values

section Reading

/-- The options behind an option are those of the grammar. -/
theorem specs_of_unfoldOption
    {fuel : Nat}
    {found : Found}
    {rest left : List Piece}
    {entries : List (OptionSpec × List String)}
    (hfound : found.spec ∈ grammar.options)
    (h : unfoldOption grammar fuel found rest = .ok (entries, left)) :
    (∀ entry ∈ entries, entry.1 ∈ grammar.options) ∧ left ⊆ rest := by
  induction fuel generalizing found entries with
  | zero =>
      cases h
  | succ fuel ih =>
      have hone (words : List String) :
          ∀ entry ∈ [(found.spec, words)], entry.1 ∈ grammar.options := by
        intro entry hentry
        rw [List.mem_singleton.mp hentry]
        exact hfound
      unfold unfoldOption at h
      split at h
      · cases h
        exact ⟨hone _, List.Subset.refl _⟩
      · cases h
        exact ⟨hone _, List.Subset.refl _⟩
      · split at h
        · cases h
          exact ⟨hone _, List.subset_cons_self _ _⟩
        · cases h
      · have hwords := takeWords_subset rest
        split at h
        · cases h
        · rename_i htake
          cases h
          rw [htake] at hwords
          exact ⟨hone _, hwords⟩
      · cases h
        exact ⟨hone _, List.Subset.refl _⟩
      · split at h
        · simp only at h
          split at h
          · cases h
          · rename_i spec hspec
            obtain ⟨⟨more, remaining⟩, hmore, hdone⟩ := ok_of_bind h
            cases hdone
            obtain ⟨hentries, hleft⟩ := ih (mem_options_of_value? hspec) hmore
            refine ⟨fun entry hentry => ?_, hleft⟩
            rcases List.mem_cons.mp hentry with rfl | hentry
            · exact hfound
            · exact hentries entry hentry
        · cases h

/-- Nothing that was not chosen has been taken, and nothing else is left to be taken from. -/
structure Reading.Sound
    (grammar : Grammar)
    (key : String)
    (choices : List String)
    (reading : Reading) : Prop where
  pieces : Sorted grammar reading.pieces
  operands : reading.operands ⊆ grammar.operands
  values : Chosen key choices reading.values

theorem sound_of_readPieces
    {key : String}
    {choices : List String}
    (hoffers : grammar.Offers key choices)
    {fuel : Nat}
    {reading after : Reading}
    (hreading : reading.Sound grammar key choices)
    (h : readPieces grammar fuel reading = .ok after) :
    after.Sound grammar key choices := by
  induction fuel generalizing reading with
  | zero =>
      cases h
      exact hreading
  | succ fuel ih =>
      unfold readPieces at h
      split at h
      · cases h
        exact hreading
      · rename_i text rest hpieces
        have hrest : rest ⊆ reading.pieces := by
          rw [hpieces]
          exact List.subset_cons_self _ _
        have hnext : Reading.Sound grammar key choices
            { reading with pieces := rest, extras := reading.extras ++ [text] } :=
          ⟨hreading.pieces.mono hrest, hreading.operands, hreading.values⟩
        exact ih hnext h
      · rename_i text found rest hpieces
        obtain ⟨⟨entries, left⟩, hunfold, hrest⟩ := ok_of_bind h
        obtain ⟨values, hvalues, hdone⟩ := ok_of_bind hrest
        have hsorted : Sorted grammar (.option text (some found) :: rest) :=
          hpieces ▸ hreading.pieces
        obtain ⟨hentries, hleft⟩ :=
          specs_of_unfoldOption (hsorted text found List.mem_cons_self) hunfold
        have hnext : Reading.Sound grammar key choices { reading with pieces := left, values } :=
          ⟨hsorted.mono (List.Subset.trans hleft (List.subset_cons_self _ _)), hreading.operands,
            chosen_of_applyOptions hoffers hentries hreading.values hvalues⟩
        exact ih hnext hdone
      · obtain ⟨⟨values, left, operands⟩, htake, hdone⟩ := ok_of_bind h
        obtain ⟨hvalues, hleft, hoperands⟩ :=
          chosen_of_takeOperands hoffers hreading.operands hreading.values htake
        have hmore := List.Subset.trans hoperands hreading.operands
        simp only at hdone
        split at hdone
        · have hnext : Reading.Sound grammar key choices
              { reading with pieces := left, values, operands } :=
            ⟨hreading.pieces.mono hleft, hmore, hvalues⟩
          exact ih hnext hdone
        · refine ih ?_ hdone
          exact ⟨hreading.pieces.mono (List.drop_subset _ _), hmore, hvalues⟩

/-- Whatever is read under a key with choices has been chosen. -/
theorem chosen_of_readArguments
    {key : String}
    {choices : List String}
    (hoffers : grammar.Offers key choices)
    {arguments extras : List String}
    {values : Values}
    (h : readArguments grammar arguments = .ok (values, extras)) :
    Chosen key choices values := by
  obtain ⟨pieces, hpieces, hrest⟩ := ok_of_bind h
  obtain ⟨reading, hreading, hrest⟩ := ok_of_bind hrest
  obtain ⟨⟨taken, left, operands⟩, htake, hdone⟩ := ok_of_bind hrest
  have hstart : Reading.Sound grammar key choices { pieces, operands := grammar.operands } := by
    refine ⟨sorted_of_piecesOf hpieces, List.Subset.refl _, fun words hwords => ?_⟩
    cases hwords
  obtain ⟨-, hoperands, hvalues⟩ := sound_of_readPieces hoffers hstart hreading
  obtain ⟨hchosen, -⟩ := chosen_of_takeOperands hoffers hoperands hvalues htake
  simp only at hdone
  split at hdone
  · cases hdone
  · cases hdone
    exact hchosen

end Reading

section Rules

/-- The scripts whose rules a command is about. -/
def ruleTarget? : Command → Option RuleTarget
  | .showRules target | .setRules target _ _ | .clearRules target => some target
  | _ => none

theorem catalog_of_ofValues
    {name : String}
    {values : Values}
    {command : Command}
    (h : ofValues name values = .ok command)
    {target : RuleTarget}
    (htarget : command.ruleTarget? = some target) :
    name = "rules" ∧ target.catalog = catalogOf? values "catalog" := by
  unfold ofValues at h
  simp only at h
  split at h
  all_goals cases h
  all_goals cases htarget
  all_goals exact ⟨rfl, rfl⟩

theorem offers_rules :
    ((grammars.value? "rules").getD {}).Offers "catalog" (labels ruledCatalogs) :=
  ⟨by decide, by decide⟩

/-- The label of the discovered scripts is not among the choices. -/
theorem catalogOf?_ne
    {values : Values}
    (h : Chosen "catalog" (labels ruledCatalogs) values) :
    catalogOf? values "catalog" ≠ some .discovered := by
  unfold catalogOf? word? wording?
  cases hvalue : values.value? "catalog" with
  | none =>
      intro hlabel
      cases hlabel
  | some words =>
      cases words with
      | nil =>
          intro hlabel
          cases hlabel
      | cons word rest =>
          intro hlabel
          have hword : CatalogName.discovered.label = word := by
            simpa using List.find?_some hlabel
          subst hword
          have hnone : (labels ruledCatalogs).contains CatalogName.discovered.label = false := by
            decide
          have hchosen := h _ hvalue
          simp only [allowed, List.all_cons, hnone, Bool.false_and, Bool.or_false] at hchosen
          cases hchosen

/-- The rules of discovered scripts cannot be asked for. -/
theorem catalog_of_parse
    {arguments : List String}
    {command : Command}
    (h : parse arguments = .ok command)
    {target : RuleTarget}
    (htarget : command.ruleTarget? = some target) :
    target.catalog ≠ some .discovered := by
  obtain ⟨⟨values, extras⟩, -, hrest⟩ := ok_of_bind h
  simp only at hrest
  split at hrest
  · cases hrest
  · rename_i name rest hcommand
    obtain ⟨⟨values, more⟩, hread, hdone⟩ := ok_of_bind hrest
    simp only at hdone
    split at hdone
    · obtain ⟨rfl, hcatalog⟩ := catalog_of_ofValues hdone htarget
      rw [hcatalog]
      exact catalogOf?_ne (chosen_of_readArguments offers_rules hread)
    · cases hdone

end Rules

end Command
end PageScripts
