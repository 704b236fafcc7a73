import PageScripts.Text.Width.Table

/-!
# The width of text

How many columns of a terminal a text takes.  A character has a width of its own, and two
characters act on their neighbours: what follows a joiner is drawn together with what stands
before it, and a picture mark widens the last narrow character before it that can be a picture.

The same rules divide a text into glyphs, none of which can be cut (`flatten_glyphs`).
-/

namespace PageScripts
namespace Text

/-- The columns that a character takes by itself. -/
def charWidth (c : Char) : Nat :=
  if 0x20 ≤ c.toNat ∧ c.toNat ≤ 0x7E then
    1
  else if columnless.cover c.toNat then
    0
  else if doubleWidth.cover c.toNat then
    2
  else
    1

/-- Joins two pictures into one. -/
def joiner : Char := '\u200D'

/-- Shows the character before it as a picture. -/
def pictureMark : Char := '\uFE0F'

/-- Whether a picture mark widens a character. -/
def widens (c : Char) : Bool :=
  widened.cover c.toNat

/-- The columns that a text takes after the given character, the last one so far with a width
of its own that no mark has acted on. -/
def widthAfter : Option Char → List Char → Nat
  | _, [] => 0
  | last, c :: rest =>
      if c = joiner then
        widthAfter last (rest.drop 1)
      else if c = pictureMark then
        match last with
        | some base => (if widens base then 1 else 0) + widthAfter none rest
        | none => widthAfter none rest
      else if charWidth c = 0 then
        widthAfter last rest
      else
        charWidth c + widthAfter (some c) rest
termination_by _ cs => cs.length
decreasing_by
  all_goals
    simp only [List.length_drop, List.length_cons]
    omega

/-- The columns that a text takes. -/
def width (cs : List Char) : Nat :=
  widthAfter none cs

/-! ## Glyphs -/

/-- Characters that are drawn together, and the columns that they take. -/
structure Glyph where
  chars : List Char
  columns : Nat
  deriving DecidableEq, Repr

/-- The glyphs of a text after some others, given in reverse; `last` is the last character with a
width of its own that no mark has acted on. -/
def glyphsAfter :
    Option Char → List Glyph → List Char → List Glyph
  | _, done, [] => done.reverse
  | last, [], c :: rest =>
      if c = joiner ∨ c = pictureMark ∨ charWidth c = 0 then
        glyphsAfter last [⟨[c], 0⟩] rest
      else
        glyphsAfter (some c) [⟨[c], charWidth c⟩] rest
  | last, g :: done, c :: rest =>
      if c = joiner then
        glyphsAfter last (⟨g.chars ++ c :: rest.take 1, g.columns⟩ :: done) (rest.drop 1)
      else if c = pictureMark then
        if last.any widens then
          glyphsAfter none (⟨g.chars ++ [c], g.columns + 1⟩ :: done) rest
        else
          glyphsAfter last (⟨g.chars ++ [c], g.columns⟩ :: done) rest
      else if charWidth c = 0 then
        glyphsAfter last (⟨g.chars ++ [c], g.columns⟩ :: done) rest
      else
        glyphsAfter (some c) (⟨[c], charWidth c⟩ :: g :: done) rest
termination_by _ _ cs => cs.length
decreasing_by
  all_goals
    simp only [List.length_drop, List.length_cons]
    omega

/-- The glyphs of a text. -/
def glyphs (cs : List Char) : List Glyph :=
  glyphsAfter none [] cs

theorem flatten_glyphsAfter
    (last : Option Char)
    (done : List Glyph)
    (cs : List Char) :
    ((glyphsAfter last done cs).map Glyph.chars).flatten =
      (done.reverse.map Glyph.chars).flatten ++ cs := by
  fun_induction glyphsAfter last done cs with
  | case4 last g done rest ih =>
      rw [ih]
      simp only [List.reverse_cons, List.map_append, List.map_cons, List.map_nil,
        List.flatten_append, List.flatten_cons, List.flatten_nil, List.append_assoc,
        List.nil_append, List.cons_append, List.take_append_drop]
  | _ => simp_all

/-- The glyphs of a text in a row are the text. -/
theorem flatten_glyphs (cs : List Char) :
    ((glyphs cs).map Glyph.chars).flatten = cs := by
  simp [glyphs, flatten_glyphsAfter]

/-- As many glyphs as fit, filled up where a glyph of two columns would stand out. -/
def takeColumns : Nat → List Glyph → List Char
  | 0, _ => []
  | _, [] => []
  | n + 1, g :: rest =>
      if g.columns ≤ n + 1 then
        g.chars ++ takeColumns (n + 1 - g.columns) rest
      else
        [' ']

/-- As much of a text as fits, which is all of it if it is not too wide. -/
def takeWidth
    (limit : Nat)
    (cs : List Char) :
    List Char :=
  if width cs ≤ limit then cs else takeColumns limit (glyphs cs)

end Text
end PageScripts
