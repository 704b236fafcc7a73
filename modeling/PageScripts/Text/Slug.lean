import PageScripts.Text.Blank
import PageScripts.Text.Skeleton

/-!
# Slugs

A slug is a name of lower-case ASCII letters and digits with single dashes between them.  It
is made from any text by taking the ASCII skeleton, leaving out what is neither a letter, a
digit, an underscore, a blank, a point nor a dash, and putting one dash for each run of the
latter four.
-/

namespace PageScripts
namespace Text

/-- Whether a character is an ASCII letter or digit. -/
def isAlnum (c : Char) : Bool :=
  ('a' ≤ c && c ≤ 'z') || ('A' ≤ c && c ≤ 'Z') || ('0' ≤ c && c ≤ '9')

/-- Whether a character becomes a dash. -/
def isJoint (c : Char) : Bool :=
  isBlank c || c == '_' || c == '.' || c == '-'

/-- Puts one dash for each run of joints. -/
def dashes : List Char → List Char
  | [] => []
  | [c] => if isJoint c then ['-'] else [c]
  | c :: d :: rest =>
      if isJoint c then
        if isJoint d then dashes (d :: rest) else '-' :: dashes (d :: rest)
      else
        c :: dashes (d :: rest)

/-- Takes the dashes off both ends. -/
def trimDashes (cs : List Char) : List Char :=
  dropLastWhile (· == '-') (cs.dropWhile (· == '-'))

/-- The ASCII characters of a text's skeleton that a slug can use. -/
def slugChars (cs : List Char) : List Char :=
  (cs.flatMap skeleton).filter fun c => c.toNat < 0x80 && (isAlnum c || isJoint c)

/-- The first characters of a text; a negative number leaves out that many at the end. -/
def takeSigned
    (n : Int)
    (cs : List Char) :
    List Char :=
  if 0 ≤ n then cs.take n.toNat else cs.take (cs.length - n.natAbs)

/-- The slug of a text, cut to a length; a text that leaves nothing is called `script`. -/
def slugOf
    (maxLength : Int)
    (cs : List Char) :
    List Char :=
  let body := (trimChars (slugChars cs)).map Char.toLower
  let slug := trimDashes (takeSigned maxLength (dashes body))
  if slug.isEmpty then "script".toList else slug

/-- The length of a slug unless another is asked for. -/
def slugLength : Int := 60

/-- The slug of a text. -/
def slug (s : String) : String :=
  String.ofList (slugOf slugLength s.toList)

end Text
end PageScripts
