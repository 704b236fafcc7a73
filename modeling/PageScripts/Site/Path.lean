import PageScripts.Text.Blank
import PageScripts.Text.Pieces

/-!
# File paths

A path is absolute or relative and consists of parts.  Empty parts and single points do not
count; double points are kept, because what they lead to depends on the directories that
exist.
-/

namespace PageScripts

/-- A path.  An absolute one has one slash or exactly two in front; a relative one has none. -/
structure FilePath where
  slashes : Nat := 0
  parts : List String := []
  deriving DecidableEq, Repr

namespace FilePath

/-- Whether a part says where to go; empty parts and single points do not. -/
def counts (part : String) : Bool :=
  part != "" && part != "."

/-- The parts of a text. -/
def partsOf (s : String) : List String :=
  (Text.split '/' s).filter counts

/-- The slashes in front of a text, as far as they matter: three or more are as good as one. -/
def slashesOf (s : String) : Nat :=
  let n := (s.toList.takeWhile (· == '/')).length
  if 2 < n then 1 else n

/-- Reads a path. -/
def ofText (s : String) : FilePath :=
  ⟨slashesOf s, partsOf s⟩

/-- The path as a text; the working directory is a single point. -/
def text (path : FilePath) : String :=
  let text := "".pushn '/' path.slashes ++ "/".intercalate path.parts
  if text = "" then "." else text

/-- The last part of a path. -/
def name (path : FilePath) : String :=
  path.parts.getLast?.getD ""

/-- Goes on from a directory by a relative path, given as a text. -/
def down
    (path : FilePath)
    (rest : String) :
    FilePath :=
  { path with parts := path.parts ++ partsOf rest }

end FilePath
end PageScripts
