import PageScripts.Text.Case.Table

/-!
# Upper and lower case

Full case mapping of texts: a character may become several (`ß` becomes `SS`), and a capital
sigma becomes the final form when a letter stands before it in the word and none after it.
-/

namespace PageScripts
namespace Text

/-- The character of a code point. -/
def charOf (code : Nat) : Char :=
  Char.ofNat code

/-- The upper case of one character. -/
def upperChar (c : Char) : List Char :=
  match upperExpansions.find? fun entry => entry.1 == c.toNat with
  | some entry => entry.2.toList
  | none => [charOf (Run.apply upperRuns c.toNat)]

/-- The lower case of one character outside its word. -/
def lowerChar (c : Char) : List Char :=
  if c.toNat = 0x130 then
    ['i', charOf 0x307]
  else
    [charOf (Run.apply lowerRuns c.toNat)]

/-- Whether the nearest character that is not passed over is a cased letter. -/
def letterNext (cs : List Char) : Bool :=
  match cs.dropWhile fun c => caseIgnorable.cover c.toNat with
  | [] => false
  | c :: _ => cased.cover c.toNat

/-- Lower case of the text `rest`, which follows the reversed text `before`. -/
def lowerFrom
    (before : List Char) :
    List Char → List Char
  | [] => []
  | c :: rest =>
      let here :=
        if c.toNat = 0x3A3 ∧ letterNext before ∧ !letterNext rest then
          ['ς']
        else
          lowerChar c
      here ++ lowerFrom (c :: before) rest

/-- The text in upper case. -/
def upper (s : String) : String :=
  String.ofList (s.toList.flatMap upperChar)

/-- The text in lower case. -/
def lower (s : String) : String :=
  String.ofList (lowerFrom [] s.toList)

end Text
end PageScripts
