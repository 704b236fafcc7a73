import PageScripts.Text.Blank
import PageScripts.Text.Case
import PageScripts.Text.Emoji.Table
import PageScripts.Text.Pieces
import PageScripts.Text.Width
import PageScripts.Url.Version

/-!
# Pictures by name

In printed text a known name between two colons, such as `:heart:`, stands for a picture.  A name
that ends in `-emoji` or `-text` asks for one of the two ways of showing it.  Between the colons
there is no blank; what is no name stays as it is, both of its colons included.
-/

namespace PageScripts
namespace Text

open Url (hexDigit?)

/-- The number that hexadecimal digits write. -/
def hexValue (cs : List Char) : Nat :=
  cs.foldl (fun n c => 16 * n + (hexDigit? c).getD 0) 0

/-- The pictures and their names. -/
def pictures : List (List Char × List (List Char)) :=
  pictureLines.flatMap fun line =>
    (pieces ' ' line.toList).filterMap fun entry =>
      match cutFirst '=' entry with
      | (codes, some names) =>
          some ((pieces '+' codes).map fun code => Char.ofNat (hexValue code), pieces ',' names)
      | _ => none

/-- The picture of a name, regardless of capitals. -/
def picture? (name : List Char) : Option (List Char) :=
  let name := (lower (String.ofList name)).toList
  (pictures.find? fun entry => entry.2.contains name).map (·.1)

/-- Shows a picture as text. -/
def letterMark : Char := '\uFE0E'

/-- The ways of showing a picture that a name may end in. -/
def manners : List (List Char × Char) :=
  [("-emoji".toList, pictureMark), ("-text".toList, letterMark)]

/-- What a text between two colons stands for. -/
def named? (body : List Char) : Option (List Char) :=
  match manners.find? fun manner => manner.1.isSuffixOf body with
  | some (ending, mark) =>
      (picture? (body.take (body.length - ending.length))).map (· ++ [mark])
  | none => picture? body

/-- Puts pictures for their names. -/
def showPictures : List Char → List Char
  | [] => []
  | c :: rest =>
      if c = ':' then
        let body := rest.takeWhile fun c => !isBlank c && c != ':'
        match rest.drop body.length with
        | ':' :: _ => (named? body).getD (':' :: body ++ [':']) ++
            showPictures (rest.drop (body.length + 1))
        | _ => ':' :: showPictures rest
      else
        c :: showPictures rest
termination_by cs => cs.length
decreasing_by
  all_goals
    simp only [List.length_drop, List.length_cons]
    omega

end Text
end PageScripts
