import PageScripts.Fault
import PageScripts.Site.Files

/-!
# Trees of files

A tree has files in directories, and no links.  The way to a file is told by names from the top
down; the working directory, from which relative paths start, is somewhere in the tree.  Looking a
path up walks through the directories one by one: each has to exist, and double points lead one
directory up, but not above the top.
-/

namespace PageScripts

/-- Files in directories: each with the names on its way from the top.  Of two files in one place
the later one counts. -/
structure FileTree (α : Type) where
  home : List String := []
  entries : List (List String × α) := []
  deriving DecidableEq, Repr

/-- What a path leads to. -/
inductive PathTarget (α : Type)
  | file (file : α)
  | directory
  | missing
  | notDirectory
  | tooLong
  deriving DecidableEq, Repr

/-- The file, if the path leads to one. -/
def PathTarget.file? {α : Type} : PathTarget α → Option α
  | file a => some a
  | _ => none

namespace FileTree

variable {α β : Type}

/-- The longest name of a file, in octets. -/
def nameLimit : Nat := 255

/-- The file in a place. -/
def at?
    (tree : FileTree α)
    (place : List String) :
    Option α :=
  ((tree.entries.filter fun entry => entry.1 == place).getLast?).map Prod.snd

/-- Whether there is a directory in a place: one on the way to a file or to the working
directory, or that itself. -/
def hasDirectory
    (tree : FileTree α)
    (place : List String) :
    Bool :=
  place.isPrefixOf tree.home || tree.entries.any fun entry =>
    decide (place.length < entry.1.length) && place.isPrefixOf entry.1

/-- Walks on from a directory. -/
def walk
    (tree : FileTree α) :
    List String → List String → PathTarget α
  | _, [] => .directory
  | place, part :: rest =>
      if part = ".." then
        walk tree place.dropLast rest
      else if nameLimit < part.utf8ByteSize then
        .tooLong
      else if tree.hasDirectory (place ++ [part]) then
        walk tree (place ++ [part]) rest
      else
        match tree.at? (place ++ [part]) with
        | none => .missing
        | some a => if rest.isEmpty then .file a else .notDirectory

/-- What a path leads to. -/
def target
    (tree : FileTree α)
    (path : FilePath) :
    PathTarget α :=
  tree.walk (if path.slashes = 0 then tree.home else []) path.parts

/-- The tree with what is told of its files. -/
def map
    (f : α → β)
    (tree : FileTree α) :
    FileTree β :=
  { home := tree.home, entries := tree.entries.map fun entry => (entry.1, f entry.2) }

/-- What the tree answers; all files in it can be read. -/
def siteFiles (tree : FileTree SiteFile) : SiteFiles :=
  ⟨fun path => (tree.target path).file?⟩

end FileTree

/-- A file with its content. -/
structure Document extends SiteFile where
  octets : List UInt8 := []
  deriving DecidableEq, Repr

/-- The content of the file that a path leads to. -/
def FileTree.contents
    (tree : FileTree Document)
    (path : FilePath) :
    Except FileError (List UInt8) :=
  match tree.target path with
  | .file document => .ok document.octets
  | .directory => .error .directory
  | .missing => .error .missing
  | .notDirectory => .error .notDirectory
  | .tooLong => .error .tooLong

end PageScripts
