import Mathlib.Data.List.Basic
import Mathlib.Data.List.Induction
import Mathlib.Logic.Function.Iterate
import PageScripts.Proofs.Site.Layout

/-!
# Where a path ends up

Double points in a path lead one directory up.  The place that a path names is told from its parts
alone (`FilePath.resolved`), whatever files and links there are: an absolute path names one below the
top, and a relative one may name one above the working directory.

What goes down from a directory may first climb and then descend: `Detour` says how far it climbs, and
by which names it descends.

* `resolved_down`: the place that a way down from a directory ends in.
* `liesUnder_down_iff`: it is below the directory exactly if the way comes back to it, and does not leave
  the working directory for good.
* `localFile_contained`: so it is with every path that an address leads to, in any file system.
* `localFile_beside_root` shows a way that does not come back.
-/

namespace PageScripts

section Defs

/-- Goes on by one part from a place below the working directory, or below the top. -/
def FilePath.enter
    (rooted : Bool)
    (place : List String)
    (part : String) :
    List String :=
  if part = ".." then
    match place.getLast? with
    | none => if rooted then [] else [".."]
    | some last => if last = ".." then place ++ [".."] else place.dropLast
  else
    place ++ [part]

/-- The place that a path names, whatever files there are. -/
def FilePath.resolved (path : FilePath) : List String :=
  path.parts.foldl (enter (path.slashes != 0)) []

/-- How many names there are in the place that a path names, besides what leads above the working
directory. -/
def FilePath.depth (path : FilePath) : Nat :=
  path.resolved.countP (· ≠ "..")

/-- A path names a place that is below that of a directory, or is that of the directory. -/
structure FilePath.LiesUnder (path root : FilePath) : Prop where
  slashes : path.slashes = root.slashes
  place : root.resolved <+: path.resolved
  inside : ".." ∉ path.resolved.drop root.resolved.length

/-- A way that climbs some directories and then descends by names. -/
structure Detour where
  up : Nat := 0
  names : List String := []
  deriving DecidableEq, Repr

/-- A way goes on by one part. -/
def Detour.enter
    (detour : Detour)
    (part : String) :
    Detour :=
  if part = ".." then
    if detour.names = [] then
      { detour with up := detour.up + 1 }
    else
      { detour with names := detour.names.dropLast }
  else
    { detour with names := detour.names ++ [part] }

/-- The way that a text describes. -/
def Detour.of (rest : String) : Detour :=
  (FilePath.partsOf rest).foldl enter {}

/-- The place in which a way ends that starts in another one. -/
def Detour.goneFrom
    (detour : Detour)
    (rooted : Bool)
    (place : List String) :
    List String :=
  (FilePath.enter rooted · "..")^[detour.up] place ++ detour.names

/-- A way descends again by the directories that it climbs from a place. -/
def Detour.Returns
    (detour : Detour)
    (place : List String) : Prop :=
  place.drop (place.length - detour.up) <+: detour.names

instance (detour : Detour) (place : List String) : Decidable (detour.Returns place) :=
  inferInstanceAs (Decidable (_ <+: _))

/-- A path lies under a directory of the layout. -/
def SiteLayout.Holds
    (layout : SiteLayout)
    (path : FilePath) : Prop :=
  ∃ root, layout.HasRoot root ∧ path.LiesUnder root

end Defs

section Ways

variable {rooted : Bool}
variable {place : List String}
variable {part : String}

theorem enter_name
    (h : part ≠ "..") :
    FilePath.enter rooted place part = place ++ [part] :=
  if_neg h

/-- From a name one step up leads to where the name was entered from. -/
theorem enter_up_concat
    {name : String}
    (hname : name ≠ "..") :
    FilePath.enter rooted (place ++ [name]) ".." = place := by
  simp [FilePath.enter, hname]

/-- Where no name is left, one step up stays at the top, or leads further up. -/
theorem enter_up_replicate (ups : Nat) :
    FilePath.enter false (List.replicate ups "..") ".." = List.replicate (ups + 1) ".." := by
  cases ups with
  | zero =>
      rfl
  | succ ups =>
      rw [FilePath.enter, if_pos rfl, List.getLast?_replicate, if_neg (Nat.succ_ne_zero ups)]
      exact (List.replicate_succ' ..).symm

/-- A climb that is no longer than the names takes off the last ones. -/
theorem climb_names
    (start : List String)
    {names : List String}
    (hnames : ".." ∉ names)
    {up : Nat}
    (hup : up ≤ names.length) :
    (FilePath.enter rooted · "..")^[up] (start ++ names) =
      start ++ names.take (names.length - up) := by
  induction up generalizing names with
  | zero =>
      simp
  | succ up ih =>
      rcases List.eq_nil_or_concat' names with rfl | ⟨before, name, rfl⟩
      · cases hup
      · rw [List.mem_append, List.mem_singleton, not_or] at hnames
        rw [List.length_append, List.length_singleton] at hup ⊢
        rw [Function.iterate_succ_apply, ← List.append_assoc, enter_up_concat (Ne.symm hnames.2),
          ih hnames.1 (by omega), Nat.add_sub_add_right, List.take_append_of_le_length (by omega)]

/-- A longer climb ends at the top, or leads further up than the place was. -/
theorem climb_above
    (ups : Nat)
    {up : Nat}
    {names : List String}
    (hnames : ".." ∉ names)
    (hup : names.length < up) :
    (FilePath.enter true · "..")^[up] names = [] ∧
    ∃ more, ups < more ∧
      (FilePath.enter false · "..")^[up] (List.replicate ups ".." ++ names) =
        List.replicate more ".." := by
  obtain ⟨further, rfl⟩ := Nat.exists_eq_add_of_le' hup
  have hnone : names.take (names.length - names.length) = [] := by simp
  have hclimb (rooted : Bool) (start : List String) :
      (FilePath.enter rooted · "..")^[further + (names.length + 1)] (start ++ names) =
        (FilePath.enter rooted · "..")^[further + 1] start := by
    rw [show further + (names.length + 1) = (further + 1) + names.length by omega,
      Function.iterate_add_apply, climb_names start hnames (Nat.le_refl _), hnone, List.append_nil]
  constructor
  · have htop : FilePath.enter true [] ".." = [] := rfl
    exact (hclimb true []).trans (Function.iterate_fixed htop _)
  · refine ⟨ups + (further + 1), by omega, ?_⟩
    rw [hclimb]
    induction further + 1 with
    | zero =>
        rfl
    | succ steps ih =>
        rw [Function.iterate_succ_apply', ih, enter_up_replicate]
        rfl

/-- The place that a path names is some steps up and then down by names; from the top it is not up. -/
theorem resolved_eq (path : FilePath) :
    ∃ ups names, ".." ∉ names ∧ (path.slashes ≠ 0 → ups = 0) ∧
      path.resolved = List.replicate ups ".." ++ names := by
  unfold FilePath.resolved
  generalize path.parts = parts
  induction parts using List.reverseRecOn with
  | nil =>
      exact ⟨0, [], List.not_mem_nil, fun _ => rfl, rfl⟩
  | append_singleton parts part ih =>
      obtain ⟨ups, names, hnames, hups, hplace⟩ := ih
      rw [List.foldl_append, List.foldl_cons, List.foldl_nil, hplace]
      by_cases hpart : part = ".."
      · subst hpart
        rcases List.eq_nil_or_concat' names with rfl | ⟨before, name, rfl⟩
        · rw [List.append_nil]
          by_cases hslashes : path.slashes = 0
          · rw [bne_eq_false_iff_eq.mpr hslashes, enter_up_replicate]
            exact ⟨ups + 1, [], List.not_mem_nil, fun h => absurd hslashes h,
              (List.append_nil _).symm⟩
          · rw [bne_iff_ne.mpr hslashes, hups hslashes]
            exact ⟨0, [], List.not_mem_nil, fun _ => rfl, rfl⟩
        · rw [List.mem_append, List.mem_singleton, not_or] at hnames
          rw [← List.append_assoc, enter_up_concat (Ne.symm hnames.2)]
          exact ⟨ups, before, hnames.1, hups, rfl⟩
      · rw [enter_name hpart, List.append_assoc]
        refine ⟨ups, names ++ [part], ?_, hups, rfl⟩
        rw [List.mem_append, List.mem_singleton, not_or]
        exact ⟨hnames, Ne.symm hpart⟩

theorem depth_eq
    {path : FilePath}
    {ups : Nat}
    {names : List String}
    (hnames : ".." ∉ names)
    (h : path.resolved = List.replicate ups ".." ++ names) :
    path.depth = names.length := by
  have hall : names.countP (· ≠ "..") = names.length := by
    rw [List.countP_eq_length]
    rintro name hmem
    exact decide_eq_true fun heq => hnames (heq ▸ hmem)
  rw [FilePath.depth, h, List.countP_append, hall, List.countP_replicate]
  simp

theorem not_mem_names_enter
    {detour : Detour}
    (h : ".." ∉ detour.names) :
    ".." ∉ (detour.enter part).names := by
  unfold Detour.enter
  split
  · split
    · exact h
    · exact fun hmem => h (List.dropLast_subset _ hmem)
  · next hpart =>
      simpa [h] using Ne.symm hpart

/-- A way that goes on by one part ends where that part leads to from its end. -/
theorem goneFrom_enter
    {detour : Detour}
    (h : ".." ∉ detour.names) :
    (detour.enter part).goneFrom rooted place =
      FilePath.enter rooted (detour.goneFrom rooted place) part := by
  unfold Detour.enter Detour.goneFrom
  by_cases hpart : part = ".."
  · subst hpart
    by_cases hnames : detour.names = []
    · simp only [if_true, hnames, List.append_nil, Function.iterate_succ_apply']
    · have hlast : detour.names.getLast hnames ≠ ".." := fun hmem => h (hmem ▸ List.getLast_mem hnames)
      simp only [if_true, if_neg hnames, FilePath.enter, List.getLast?_append,
        List.getLast?_eq_some_getLast hnames, Option.some_or, if_neg hlast,
        List.dropLast_append_of_ne_nil hnames]
  · simp only [if_neg hpart, enter_name hpart, List.append_assoc]

theorem not_mem_names_foldl
    (parts : List String)
    {detour : Detour}
    (h : ".." ∉ detour.names) :
    ".." ∉ (parts.foldl Detour.enter detour).names := by
  induction parts generalizing detour with
  | nil =>
      exact h
  | cons part parts ih =>
      exact ih (not_mem_names_enter h)

theorem goneFrom_foldl
    (parts : List String)
    {detour : Detour}
    (h : ".." ∉ detour.names) :
    (parts.foldl Detour.enter detour).goneFrom rooted place =
      parts.foldl (FilePath.enter rooted) (detour.goneFrom rooted place) := by
  induction parts generalizing detour with
  | nil =>
      rfl
  | cons part parts ih =>
      rw [List.foldl_cons, List.foldl_cons, ← goneFrom_enter h]
      exact ih (not_mem_names_enter h)

/-- What goes down from a directory ends where its way leads to from there. -/
theorem resolved_down
    (root : FilePath)
    (rest : String) :
    (root.down rest).resolved = (Detour.of rest).goneFrom (root.slashes != 0) root.resolved := by
  have hway : (Detour.of rest).goneFrom (root.slashes != 0) root.resolved = _ :=
    goneFrom_foldl (FilePath.partsOf rest) List.not_mem_nil
  have hstart : Detour.goneFrom {} (root.slashes != 0) root.resolved = root.resolved :=
    List.append_nil _
  rw [hway, hstart]
  exact List.foldl_append

theorem returns_of_not_up
    {detour : Detour}
    (h : detour.up = 0)
    (place : List String) :
    detour.Returns place := by
  rw [Detour.Returns, h, Nat.sub_zero, List.drop_length]
  exact List.nil_prefix

/-- Of two places with a common start, the second one lies below the first one exactly if it goes on by
what is left of the first one. -/
theorem liesUnder_iff_of_common
    {path root : FilePath}
    (hslashes : path.slashes = root.slashes)
    (start kept : List String)
    {lost names : List String}
    (hroot : root.resolved = start ++ (kept ++ lost))
    (hpath : path.resolved = start ++ (kept ++ names))
    (hnames : ".." ∉ kept ++ names) :
    path.LiesUnder root ↔ lost <+: names := by
  have hprefix : root.resolved <+: path.resolved ↔ lost <+: names := by
    rw [hroot, hpath, List.prefix_append_right_inj, List.prefix_append_right_inj]
  constructor
  · exact fun hunder => hprefix.mp hunder.place
  · rintro ⟨more, rfl⟩
    refine ⟨hslashes, hprefix.mpr (List.prefix_append lost more), ?_⟩
    have hrest : path.resolved.drop root.resolved.length = more := by
      rw [hpath, hroot]
      simp
    rw [hrest]
    exact fun hmem => hnames (List.mem_append_right _ (List.mem_append_right _ hmem))

/-- A place that is further up than another one does not lie below it. -/
theorem not_liesUnder_of_above
    {path root : FilePath}
    {ups more : Nat}
    {names way : List String}
    (hmore : ups < more)
    (hnames : ".." ∉ names)
    (hroot : root.resolved = List.replicate ups ".." ++ names)
    (hpath : path.resolved = List.replicate more ".." ++ way) :
    ¬ path.LiesUnder root := by
  intro hunder
  obtain ⟨steps, rfl⟩ := Nat.exists_eq_add_of_lt hmore
  have hsplit : path.resolved =
      List.replicate ups ".." ++ (".." :: List.replicate steps ".." ++ way) := by
    rw [hpath, Nat.add_assoc, ← List.replicate_append_replicate, List.replicate_succ,
      List.append_assoc]
  have hplace := hunder.place
  have hinside := hunder.inside
  rw [hroot, hsplit, List.prefix_append_right_inj] at hplace
  rw [hroot, hsplit] at hinside
  cases names with
  | nil =>
      simp at hinside
  | cons name names =>
      rw [List.cons_append, List.cons_prefix_cons] at hplace
      exact hnames (hplace.1 ▸ List.mem_cons_self)

/-- What goes down from a directory ends below it exactly if the way comes back to it, and, from a
directory that is not told from the top, does not climb over the names of its place. -/
theorem liesUnder_down_iff
    (root : FilePath)
    (rest : String) :
    (root.down rest).LiesUnder root ↔
      (root.slashes = 0 → (Detour.of rest).up ≤ root.depth) ∧
        (Detour.of rest).Returns root.resolved := by
  have hslashes : (root.down rest).slashes = root.slashes := rfl
  obtain ⟨ups, names, hnames, hups, hroot⟩ := resolved_eq root
  have hdown := resolved_down root rest
  have hway : ".." ∉ (Detour.of rest).names :=
    not_mem_names_foldl (FilePath.partsOf rest) List.not_mem_nil
  rw [depth_eq hnames hroot]
  rw [Detour.goneFrom, hroot] at hdown
  unfold Detour.Returns
  by_cases hup : (Detour.of rest).up ≤ names.length
  · -- The way takes off the last names and goes on from what is left of them.
    rw [climb_names _ hnames hup, List.append_assoc] at hdown
    have hback : root.resolved.drop (root.resolved.length - (Detour.of rest).up) =
        names.drop (names.length - (Detour.of rest).up) := by
      rw [hroot, List.length_append, Nat.add_sub_assoc hup, List.drop_append]
      simp
    rw [hback, and_iff_right fun _ => hup]
    refine liesUnder_iff_of_common hslashes _ _ ?_ hdown ?_
    · rw [List.take_append_drop, hroot]
    · rw [List.mem_append, not_or]
      exact ⟨fun hmem => hnames (List.take_subset _ _ hmem), hway⟩
  · have hover : names.length < (Detour.of rest).up := Nat.lt_of_not_le hup
    obtain ⟨htop, more, hmore, habove⟩ := climb_above ups hnames hover
    by_cases hrelative : root.slashes = 0
    · -- The way leads further up than the directory is.
      rw [bne_eq_false_iff_eq.mpr hrelative, habove] at hdown
      exact iff_of_false (not_liesUnder_of_above hmore hnames hroot hdown)
        (fun h => hup (h.1 hrelative))
    · -- From the top there is no further up.
      rw [bne_iff_ne.mpr hrelative, hups hrelative, List.replicate_zero, List.nil_append, htop,
        List.nil_append] at hdown
      rw [hups hrelative, List.replicate_zero, List.nil_append] at hroot
      rw [and_iff_right fun h => absurd h hrelative, hroot,
        Nat.sub_eq_zero_of_le (Nat.le_of_lt hover), List.drop_zero]
      exact liesUnder_iff_of_common hslashes [] [] hroot hdown hway

end Ways

section Containment

open Url (Address)
open SiteLayout (localFile?_ok oneFileSite oneFile)

variable {layout : SiteLayout}
variable {files : SiteFiles}
variable {src : String}
variable {path : FilePath}
variable {file : SiteFile}

/-- Whatever the file system is like, a path that an address leads to goes down from a root of the
layout by what ends the path of the address.  It names the place to which this way leads from the root,
and lies under that root exactly if the way comes back to it and does not climb over the names of a
relative one; so it does if the way never climbs. -/
theorem localFile_contained
    (h : layout.localFile? files src = .ok (some (path, file))) :
    ∃ a root rest, Address.parse src = .ok a ∧ layout.HasRoot root ∧
      rest.toList <:+ a.path.toList ∧ path = root.down rest ∧ files.find? path = some file ∧
      path.resolved = (Detour.of rest).goneFrom (root.slashes != 0) root.resolved ∧
      (path.LiesUnder root ↔
        (root.slashes = 0 → (Detour.of rest).up ≤ root.depth) ∧
          (Detour.of rest).Returns root.resolved) ∧
      ((Detour.of rest).up = 0 → layout.Holds path) := by
  obtain ⟨more, a, root, -, ha, hroot, hfile, rest, rfl, hsuffix⟩ := localFile?_ok h
  have hunder := liesUnder_down_iff root rest
  refine ⟨a, root, rest, ha, hroot, hsuffix, rfl, hfile, resolved_down root rest, hunder,
    fun hdown => ⟨root, hroot, hunder.mpr ⟨fun _ => ?_, returns_of_not_up hdown _⟩⟩⟩
  rw [hdown]
  exact Nat.zero_le _

/-- A site that is told from the top. -/
def rootedSite : SiteLayout :=
  { siteUrl := "https://a.b", installDir := some (FilePath.ofText "/srv/www") }

/-- A way that leaves the root and comes back to it. -/
theorem localFile_contained_and_back :
    rootedSite.localFile? oneFile.siteFiles "https://a.b/../www/app.js" =
      .ok (some (FilePath.ofText "/srv/www/../www/app.js", { size := 12, mtime := 5 })) ∧
    rootedSite.Holds (FilePath.ofText "/srv/www/../www/app.js") := by
  have hfound : rootedSite.localFile? oneFile.siteFiles "https://a.b/../www/app.js" =
      .ok (some (FilePath.ofText "/srv/www/../www/app.js", { size := 12, mtime := 5 })) := rfl
  obtain ⟨_, root, rest, -, hroot, -, hpath, -, -, hunder, -⟩ := localFile_contained hfound
  obtain rfl : root = FilePath.ofText "/srv/www" := by
    rcases hroot with hroot | hroot <;> cases hroot
    rfl
  have hwhole : ["srv", "www"] ++ ["..", "www", "app.js"] = ["srv", "www"] ++ FilePath.partsOf rest :=
    congrArg FilePath.parts hpath
  have hparts := List.append_cancel_left hwhole
  have hway : Detour.of rest = { up := 1, names := ["www", "app.js"] } := by
    rw [Detour.of, ← hparts]
    rfl
  rw [hway] at hunder
  have hback : Detour.Returns { up := 1, names := ["www", "app.js"] }
      (FilePath.ofText "/srv/www").resolved := by
    decide
  have hrooted : (FilePath.ofText "/srv/www").slashes ≠ 0 := by
    decide
  exact ⟨hfound, FilePath.ofText "/srv/www", .inr rfl,
    hunder.mpr ⟨fun h => absurd h hrooted, hback⟩⟩

/-- A tree with a file beside the directory of a site. -/
def twoFiles : FileTree SiteFile :=
  { oneFile with
    entries := (["srv", "secret.txt"], { size := 7, mtime := 5 }) :: oneFile.entries }

/-- Two points lead out of the only root of a site, to a file that is beside it. -/
theorem localFile_beside_root :
    oneFileSite.localFile? twoFiles.siteFiles "https://a.b/../secret.txt" =
      .ok (some (FilePath.ofText "www/../secret.txt", { size := 7, mtime := 5 })) ∧
    ¬ oneFileSite.Holds (FilePath.ofText "www/../secret.txt") := by
  refine ⟨rfl, ?_⟩
  rintro ⟨root, hroot, hunder⟩
  rcases hroot with hroot | hroot <;> cases hroot
  exact absurd hunder.place (by decide)

end Containment
end PageScripts
