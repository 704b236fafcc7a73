import PageScripts.Proofs.Url.Address
import PageScripts.Site.Layout
import PageScripts.Site.Tree

/-!
# Which addresses lead to files

A layout takes an address for one of the site if its text starts with that of the site's address.
Then the path of the address, without what leads to the site or to its content, is followed down from
one of the two directories.

* `localFile?_ok`: what is known of a file that an address leads to.
* `localFile?_error_iff`: the addresses that stop the search for a file.
* `localFile_at_mark`: an address that leads to a file has the scheme of the site, and its location
  starts with that of the site.  It belongs to the site exactly if it goes on at a mark;
  `localFile_beyond_host` shows an address that does not.
-/

namespace PageScripts
namespace SiteLayout

open Url (Address AddressError)

variable {layout : SiteLayout}
variable {files : SiteFiles}

section Defs

/-- A directory that the layout has, for the content or for the whole site. -/
def HasRoot
    (layout : SiteLayout)
    (root : FilePath) : Prop :=
  layout.contentDir = some root ∨ layout.installDir = some root

/-- An address that starts as that of the site does but cannot be taken apart. -/
def Refuses
    (layout : SiteLayout)
    (src : String)
    (cause : AddressError) : Prop :=
  layout.siteUrl ≠ "" ∧ (∃ more, src = layout.siteUrl ++ more) ∧ Address.parse src = .error cause

/-- The addresses of the layout itself can be taken apart. -/
def Splits (layout : SiteLayout) : Prop :=
  (∃ site, Address.parse layout.siteUrl = .ok site) ∧
    ∃ content, Address.parse layout.contentUrl = .ok content

/-- A path goes down from a root to a file by what ends a text. -/
def Leads
    (files : SiteFiles)
    (root : FilePath)
    (text : String)
    (found : FilePath × SiteFile) : Prop :=
  files.find? found.1 = some found.2 ∧
    ∃ rest, found.1 = root.down rest ∧ rest.toList <:+ text.toList

/-- The file behind the path of an address. -/
def fileBehind?
    (layout : SiteLayout)
    (files : SiteFiles)
    (path : String) :
    Except AddressError (Option (FilePath × SiteFile)) :=
  if path = "" then
    .ok none
  else
    layout.contentFile? files path >>= fun content =>
      match content with
      | some found => .ok (some found)
      | none => layout.installedFile? files path

end Defs

section Search

variable {path src : String}
variable {found : FilePath × SiteFile}

theorem after?_eq_some_iff {base rest : String} :
    after? base path = some rest ↔ path = base ++ rest := by
  rw [← String.toList_inj, String.toList_append]
  unfold after?
  constructor
  · intro h
    split at h
    · next hprefix =>
        obtain ⟨more, hmore⟩ := List.isPrefixOf_iff_prefix.mp hprefix
        cases h
        rw [← hmore, ← String.length_toList, List.drop_left, String.toList_ofList]
    · cases h
  · intro h
    rw [if_pos (List.isPrefixOf_iff_prefix.mpr ⟨rest.toList, h.symm⟩), h, ← String.length_toList,
      List.drop_left, String.ofList_toList]

theorem leads_of_existing?
    {root : FilePath}
    {rest : String}
    (h : existing? files (root.down rest) = some found)
    (hsuffix : rest.toList <:+ path.toList) :
    Leads files root path found := by
  obtain ⟨file, hfile, rfl⟩ := Option.map_eq_some_iff.mp h
  exact ⟨hfile, rest, rfl, hsuffix⟩

/-- What comes behind the start of a text ends it. -/
theorem suffix_of_after?
    {base rest : String}
    (h : after? base path = some rest) :
    rest.toList <:+ path.toList := by
  rw [after?_eq_some_iff.mp h, String.toList_append]
  exact List.suffix_append _ _

theorem contentFile?_ok
    (h : layout.contentFile? files path = .ok (some found)) :
    ∃ root, layout.contentDir = some root ∧ Leads files root path found := by
  unfold contentFile? at h
  split at h
  · cases h
  · next root hroot =>
      split at h
      · cases h
      · obtain ⟨base, -, hresult⟩ := ok_of_bind h
        obtain ⟨rest, hrest, hfound⟩ := Option.bind_eq_some_iff.mp (Except.ok.inj hresult)
        exact ⟨root, hroot, leads_of_existing? hfound (suffix_of_after? hrest)⟩

theorem installedFile?_ok
    (h : layout.installedFile? files path = .ok (some found)) :
    ∃ root, layout.installDir = some root ∧ Leads files root path found := by
  unfold installedFile? at h
  split at h
  · cases h
  · next root hroot =>
      obtain ⟨base, -, hresult⟩ := ok_of_bind h
      refine ⟨root, hroot, leads_of_existing? (Except.ok.inj hresult) ?_⟩
      cases hrest : after? base path with
      | none =>
          exact List.suffix_refl _
      | some rest =>
          exact suffix_of_after? hrest

theorem fileBehind?_ok
    (h : layout.fileBehind? files path = .ok (some found)) :
    ∃ root, layout.HasRoot root ∧ Leads files root path found := by
  unfold fileBehind? at h
  split at h
  · cases h
  · obtain ⟨content, hcontent, hresult⟩ := ok_of_bind h
    cases content with
    | none =>
        obtain ⟨root, hroot, hleads⟩ := installedFile?_ok hresult
        exact ⟨root, .inr hroot, hleads⟩
    | some place =>
        cases hresult
        obtain ⟨root, hroot, hleads⟩ := contentFile?_ok hcontent
        exact ⟨root, .inl hroot, hleads⟩

/-- Only the addresses that start as that of the site does are taken apart. -/
theorem localFile?_eq
    (layout : SiteLayout)
    (files : SiteFiles)
    (src : String) :
    layout.localFile? files src =
      if src = "" ∨ layout.siteUrl = "" ∨ (after? layout.siteUrl src).isNone then
        .ok none
      else
        Address.parse src >>= fun a => layout.fileBehind? files a.path :=
  rfl

/-- An address that leads to a file starts with that of the site and can be taken apart, and its path
leads down from a root of the layout to the file. -/
theorem localFile?_ok
    (h : layout.localFile? files src = .ok (some found)) :
    ∃ more a root, src = layout.siteUrl ++ more ∧ Address.parse src = .ok a ∧
      layout.HasRoot root ∧ Leads files root a.path found := by
  rw [localFile?_eq] at h
  split at h
  · cases h
  · next hsite =>
      obtain ⟨a, ha, hfile⟩ := ok_of_bind h
      obtain ⟨more, hmore⟩ := Option.ne_none_iff_exists'.mp
        (mt Option.isNone_iff_eq_none.mpr fun hnone => hsite (.inr (.inr hnone)))
      obtain ⟨root, hroot, hleads⟩ := fileBehind?_ok hfile
      exact ⟨more, a, root, after?_eq_some_iff.mp hmore, ha, hroot, hleads⟩

theorem contentFile?_isOk
    (hsplits : layout.Splits)
    (files : SiteFiles)
    (path : String) :
    ∃ result, layout.contentFile? files path = .ok result := by
  obtain ⟨content, hcontent⟩ := hsplits.2
  unfold contentFile?
  split
  · exact ⟨none, rfl⟩
  · split
    · exact ⟨none, rfl⟩
    · simp only [basePath, hcontent]
      exact ⟨_, rfl⟩

theorem installedFile?_isOk
    (hsplits : layout.Splits)
    (files : SiteFiles)
    (path : String) :
    ∃ result, layout.installedFile? files path = .ok result := by
  obtain ⟨site, hsite⟩ := hsplits.1
  unfold installedFile?
  split
  · exact ⟨none, rfl⟩
  · simp only [basePath, hsite]
    exact ⟨_, rfl⟩

theorem fileBehind?_isOk
    (hsplits : layout.Splits)
    (files : SiteFiles)
    (path : String) :
    ∃ result, layout.fileBehind? files path = .ok result := by
  unfold fileBehind?
  split
  · exact ⟨none, rfl⟩
  · obtain ⟨content, hcontent⟩ := contentFile?_isOk hsplits files path
    rw [hcontent]
    cases content with
    | none =>
        exact installedFile?_isOk hsplits files path
    | some place =>
        exact ⟨some place, rfl⟩

/-- Just the addresses that start as that of the site does and cannot be taken apart stop the search
for a file. -/
theorem localFile?_error_iff
    (hsplits : layout.Splits)
    {cause : AddressError} :
    layout.localFile? files src = .error cause ↔ layout.Refuses src cause := by
  rw [localFile?_eq]
  unfold Refuses
  by_cases hsite : src = "" ∨ layout.siteUrl = "" ∨ (after? layout.siteUrl src).isNone
  · rw [if_pos hsite]
    refine iff_of_false (fun h => by cases h) ?_
    rintro ⟨hurl, ⟨more, hmore⟩, hcause⟩
    rcases hsite with rfl | hempty | hother
    · cases hcause
    · exact hurl hempty
    · rw [after?_eq_some_iff.mpr hmore] at hother
      cases hother
  · rw [if_neg hsite]
    obtain ⟨-, hsite⟩ := not_or.mp hsite
    obtain ⟨hurl, hstarts⟩ := not_or.mp hsite
    obtain ⟨more, hmore⟩ := Option.ne_none_iff_exists'.mp (mt Option.isNone_iff_eq_none.mpr hstarts)
    cases hparse : Address.parse src with
    | error other =>
        constructor
        · intro h
          cases h
          exact ⟨hurl, ⟨more, after?_eq_some_iff.mp hmore⟩, rfl⟩
        · rintro ⟨-, -, h⟩
          cases h
          rfl
    | ok a =>
        obtain ⟨result, hresult⟩ := fileBehind?_isOk hsplits files a.path
        refine iff_of_false (fun h => ?_) (fun h => by cases h.2.2)
        cases hresult.symm.trans h

end Search

section Site

variable {base : Address}
variable {src : String}
variable {found : FilePath × SiteFile}

/-- An address that leads to a file has the scheme of the site, and its location starts with that of
the site.  It is an address of the site exactly if it goes on at a mark. -/
theorem localFile_at_mark
    (hbase : Address.parse layout.siteUrl = .ok base)
    (hscheme : base.scheme = "http" ∨ base.scheme = "https")
    (hlocation : base.location ≠ "")
    (hfound : layout.localFile? files src = .ok (some found)) :
    ∃ a more, Address.parse src = .ok a ∧ src = layout.siteUrl ++ more ∧
      a.scheme = base.scheme ∧
      base.location.toList <+: a.location.toList ∧
      (a.Within base ↔ base.Apart layout.siteUrl more) := by
  obtain ⟨more, a, -, rfl, ha, -, -⟩ := localFile?_ok hfound
  have hschemed : base.scheme ≠ "" := by
    intro hempty
    rw [hempty] at hscheme
    revert hscheme
    decide
  exact ⟨a, more, ha, rfl, Url.within_iff_apart hbase hschemed hlocation ha⟩

/-- A site with one file. -/
def oneFileSite : SiteLayout :=
  { siteUrl := "https://a.b", installDir := some (FilePath.ofText "www") }

/-- The file of that site, in a tree where nothing else is. -/
def oneFile : FileTree SiteFile :=
  { home := ["srv"], entries := [(["srv", "www", "app.js"], { size := 12, mtime := 5 })] }

theorem localFile_at_mark_own :
    ∃ a more base, Address.parse "https://a.b/app.js" = .ok a ∧
      "https://a.b/app.js" = oneFileSite.siteUrl ++ more ∧
      Address.parse oneFileSite.siteUrl = .ok base ∧ a.Within base := by
  have hbase : Address.parse oneFileSite.siteUrl =
      .ok { scheme := "https", location := "a.b", path := "", query := "", fragment := "" } := rfl
  have hfound : oneFileSite.localFile? oneFile.siteFiles "https://a.b/app.js" =
      .ok (some (FilePath.ofText "www/app.js", { size := 12, mtime := 5 })) := rfl
  obtain ⟨a, more, ha, hmore, -, -, hwithin⟩ :=
    localFile_at_mark hbase (.inr rfl) (by decide) hfound
  refine ⟨a, more, _, ha, hmore, hbase, hwithin.mpr ?_⟩
  obtain rfl : more = "/app.js" := (String.append_right_inj oneFileSite.siteUrl).mp hmore.symm
  refine .inr (.inr (.inr fun c hc => ?_))
  obtain rfl : '/' = c := Option.some.inj hc
  rfl

/-- The address of a foreign host that starts as that of the site does leads to a file of the site. -/
theorem localFile_beyond_host :
    oneFileSite.localFile? oneFile.siteFiles "https://a.b.evil.org/app.js" =
      .ok (some (FilePath.ofText "www/app.js", { size := 12, mtime := 5 })) ∧
    ∀ a base, Address.parse "https://a.b.evil.org/app.js" = .ok a →
      Address.parse oneFileSite.siteUrl = .ok base → a.location ≠ base.location := by
  refine ⟨rfl, ?_⟩
  intro a base ha hbase
  cases ha
  cases hbase
  decide

end Site

end SiteLayout
end PageScripts
