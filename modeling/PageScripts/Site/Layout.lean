import PageScripts.Listing
import PageScripts.Site.Files
import PageScripts.Url.Address

/-!
# The layout of a site

A site has an address and a directory in which it is installed; its content has an address and
a directory too.  `SiteLayout.localFile?` says which file, if any, stands behind the address of
a script: first by way of the content, then by way of the whole site.

An address belongs to the site if it starts with the site's address, letter by letter.
-/

namespace PageScripts

/-- The addresses and directories of a site. -/
structure SiteLayout where
  siteUrl : String := ""
  contentUrl : String := ""
  contentDir : Option FilePath := none
  installDir : Option FilePath := none
  deriving DecidableEq, Repr

namespace SiteLayout

/-- The name of the content directory, unless another is given. -/
def contentName : String := "wp-content"

/-- A directory below another one, as texts. -/
def below (directory : String) : String :=
  if directory.toList.getLast? = some '/' then
    directory ++ contentName
  else
    directory ++ "/" ++ contentName

/-- The layout that an environment describes.  The content is inside the site, unless the
environment says otherwise. -/
def ofEnvironment (env : Listing String String) : SiteLayout :=
  let get (name : String) : String := (env.value? name).getD ""
  let siteUrl := Text.trimEnd '/' (get "PSA_SITE_URL")
  let contentUrl := Text.trimEnd '/' (get "PSA_CONTENT_URL")
  let installDir := get "PSA_ABSPATH"
  let contentDir := get "PSA_CONTENT_DIR"
  let contentDir :=
    if installDir ≠ "" ∧ contentDir = "" then below installDir else contentDir
  let directory (text : String) : Option FilePath :=
    if text = "" then none else some (FilePath.ofText text)
  { siteUrl
    contentUrl :=
      if siteUrl ≠ "" ∧ contentUrl = "" then siteUrl ++ "/" ++ contentName else contentUrl
    contentDir := directory contentDir
    installDir := directory installDir }

/-- The path of an address without the slashes at its end. -/
def basePath (url : String) : Except Url.AddressError String := do
  return Text.trimEnd '/' (← Url.Address.parse url).path

/-- What is left of a path after another one in front of it. -/
def after?
    (base path : String) :
    Option String :=
  if base.toList.isPrefixOf path.toList then
    some (String.ofList (path.toList.drop base.length))
  else
    none

/-- A path that leads to a file, with the file. -/
def existing?
    (files : SiteFiles)
    (path : FilePath) :
    Option (FilePath × SiteFile) :=
  (files.find? path).map fun file => (path, file)

/-- The file behind a path of the content. -/
def contentFile?
    (layout : SiteLayout)
    (files : SiteFiles)
    (path : String) :
    Except Url.AddressError (Option (FilePath × SiteFile)) :=
  match layout.contentDir with
  | none => .ok none
  | some directory =>
      if layout.contentUrl = "" then
        .ok none
      else do
        let base ← basePath layout.contentUrl
        return (after? (base ++ "/") path).bind fun rest =>
          existing? files (directory.down rest)

/-- The file behind a path of the site. -/
def installedFile?
    (layout : SiteLayout)
    (files : SiteFiles)
    (path : String) :
    Except Url.AddressError (Option (FilePath × SiteFile)) :=
  match layout.installDir with
  | none => .ok none
  | some directory => do
      let base ← basePath layout.siteUrl
      return existing? files (directory.down ((after? base path).getD path))

/-- The file behind the address of a script. -/
def localFile?
    (layout : SiteLayout)
    (files : SiteFiles)
    (src : String) :
    Except Url.AddressError (Option (FilePath × SiteFile)) :=
  if src = "" ∨ layout.siteUrl = "" ∨ (after? layout.siteUrl src).isNone then
    .ok none
  else do
    let path := (← Url.Address.parse src).path
    if path = "" then
      return none
    else
      match ← contentFile? layout files path with
      | some found => return some found
      | none => installedFile? layout files path

end SiteLayout
end PageScripts
