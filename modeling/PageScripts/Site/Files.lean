import PageScripts.Site.Path

/-!
# The files of a site

Of the files of a site only the size and the modification time matter, and which path leads to
which file.  That is for the file system to say: a path may be absolute or lead above the working
directory, there may be links on its way, and a file may be there that cannot be read.
-/

namespace PageScripts

/-- What is known of a file. -/
structure SiteFile where
  size : Int := 1
  mtime : Int := 1000
  deriving DecidableEq, Repr

/-- What a file system answers: the file that a path leads to, if there is one and it can be
read. -/
structure SiteFiles where
  find? : FilePath → Option SiteFile

/-- No path leads to a file. -/
def SiteFiles.empty : SiteFiles :=
  ⟨fun _ => none⟩

end PageScripts
