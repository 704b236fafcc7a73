/-!
# Blanks and trimming

Blanks are the characters that trimming takes off both ends of a text: tabs, line and page
breaks, the separators of the control range, and all spaces, the no-break ones included.
A zero-width space is not a blank.
-/

namespace PageScripts
namespace Text

/-- Whether trimming takes the character off. -/
def isBlank (c : Char) : Bool :=
  let code := c.toNat
  (0x09 ≤ code && code ≤ 0x0D)
    || (0x1C ≤ code && code ≤ 0x20)
    || code == 0x85
    || code == 0xA0
    || code == 0x1680
    || (0x2000 ≤ code && code ≤ 0x200A)
    || code == 0x2028
    || code == 0x2029
    || code == 0x202F
    || code == 0x205F
    || code == 0x3000

/-- Takes off the characters at the end for which the test holds. -/
def dropLastWhile
    (test : Char → Bool)
    (cs : List Char) :
    List Char :=
  (cs.reverse.dropWhile test).reverse

/-- Takes the blanks off both ends. -/
def trimChars (cs : List Char) : List Char :=
  dropLastWhile isBlank (cs.dropWhile isBlank)

/-- Takes the blanks off both ends. -/
def trim (s : String) : String :=
  String.ofList (trimChars s.toList)

@[simp]
theorem toList_trim (s : String) :
    (trim s).toList = trimChars s.toList := by
  simp [trim]

/-- Takes off the occurrences of one character at the end. -/
def trimEnd
    (c : Char)
    (s : String) :
    String :=
  String.ofList (dropLastWhile (· == c) s.toList)

end Text
end PageScripts
