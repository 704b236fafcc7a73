import PageScripts.Text.Blank
import PageScripts.Text.Pieces
import PageScripts.Text.Width

/-!
# Wrapping text

A line that is too wide is broken in front of words, each line being filled as far as it goes.
A word takes the blanks after it along; they may stand out over the end of the line.  A word
that is too wide by itself begins a line of its own.  It is either folded over several lines or
stays in one piece, and `crop` cuts it short.

Wrapping loses nothing: the lines in a row are the text (`flatten_wrap`).
-/

namespace PageScripts
namespace Text

/-- Cuts a text in front of each character that is no blank but comes after one. -/
def cutWords : List Char → List (List Char)
  | [] => []
  | c :: cs =>
      match cutWords cs with
      | [] => [[c]]
      | word :: rest =>
          if isBlank c && !(word.head?.any isBlank) then
            [c] :: word :: rest
          else
            (c :: word) :: rest

/-- The words of a text, each with the blanks after it, the first one also with those before
it. -/
def words (cs : List Char) : List (List Char) :=
  match cutWords (cs.dropWhile isBlank) with
  | [] => [cs]
  | word :: rest => (cs.takeWhile isBlank ++ word) :: rest

/-- What becomes of a word that is too wide by itself. -/
inductive Overflow
  | fold
  | keep
  deriving DecidableEq, Repr

/-- Cuts glyphs into lines; the first line is begun already and has the given width. -/
def chopGlyphs
    (limit : Nat) :
    Nat → List Char → List Glyph → List (List Char)
  | _, line, [] => [line]
  | size, line, g :: rest =>
      if limit < size + g.columns then
        line :: chopGlyphs limit g.columns g.chars rest
      else
        chopGlyphs limit (size + g.columns) (line ++ g.chars) rest

/-- Cuts a text wherever a line is full. -/
def chop
    (limit : Nat)
    (cs : List Char) :
    List (List Char) :=
  chopGlyphs limit 0 [] (glyphs cs)

/-- Fills lines with words; the first line is begun already and has the given width. -/
def fill
    (overflow : Overflow)
    (limit : Nat) :
    Nat → List Char → List (List Char) → List (List Char)
  | _, line, [] => [line]
  | size, line, word :: rest =>
      let needed := width (dropLastWhile isBlank word)
      if size + needed ≤ limit then
        fill overflow limit (size + width word) (line ++ word) rest
      else
        let parts :=
          if overflow = .fold ∧ limit < needed then chop limit word else [word]
        let last := parts.getLast?.getD []
        let before := if line.isEmpty then [] else [line]
        before ++ parts.dropLast ++ fill overflow limit (width last) last rest

/-- Breaks a text into lines. -/
def wrap
    (overflow : Overflow)
    (limit : Nat)
    (cs : List Char) :
    List (List Char) :=
  fill overflow limit 0 [] (words cs)

theorem flatten_cutWords (cs : List Char) :
    (cutWords cs).flatten = cs := by
  induction cs with
  | nil => rfl
  | cons c cs ih =>
      simp only [cutWords]
      split
      · simp_all
      · split <;> simp_all

theorem flatten_words (cs : List Char) :
    (words cs).flatten = cs := by
  have h := flatten_cutWords (cs.dropWhile isBlank)
  simp only [words]
  split
  · simp
  · rename_i hw
    rw [hw] at h
    simp only [List.flatten_cons] at h
    simp only [List.flatten_cons, List.append_assoc, h]
    exact List.takeWhile_append_dropWhile

theorem flatten_chopGlyphs
    (limit size : Nat)
    (line : List Char)
    (gs : List Glyph) :
    (chopGlyphs limit size line gs).flatten = line ++ (gs.map Glyph.chars).flatten := by
  induction gs generalizing size line with
  | nil => simp [chopGlyphs]
  | cons g rest ih =>
      simp only [chopGlyphs]
      split <;> simp [ih]

theorem flatten_chop
    (limit : Nat)
    (cs : List Char) :
    (chop limit cs).flatten = cs := by
  simp [chop, flatten_chopGlyphs, flatten_glyphs]

theorem flatten_dropLast_append_getLast
    (parts : List (List Char)) :
    parts.dropLast.flatten ++ parts.getLast?.getD [] = parts.flatten := by
  induction parts with
  | nil => rfl
  | cons part rest ih =>
      cases rest with
      | nil => simp
      | cons next rest => simpa using ih

theorem flatten_fill
    (overflow : Overflow)
    (limit size : Nat)
    (line : List Char)
    (ws : List (List Char)) :
    (fill overflow limit size line ws).flatten = line ++ ws.flatten := by
  induction ws generalizing size line with
  | nil => simp [fill]
  | cons word rest ih =>
      simp only [fill]
      split
      · simp [ih]
      · have hline : (if line.isEmpty then [] else [line]).flatten = line := by
          cases line <;> simp
        simp only [List.flatten_append, hline, ih, List.append_assoc, List.flatten_cons]
        rw [← List.append_assoc (List.flatten _), flatten_dropLast_append_getLast]
        split <;> simp [flatten_chop]

/-- The lines in a row are the text. -/
theorem flatten_wrap
    (overflow : Overflow)
    (limit : Nat)
    (cs : List Char) :
    (wrap overflow limit cs).flatten = cs := by
  simp [wrap, flatten_fill, flatten_words]

/-- Takes off blanks at the end, as long as there are more characters than fit. -/
def dropExcess
    (limit : Nat)
    (cs : List Char) :
    List Char :=
  let blanks := cs.length - (dropLastWhile isBlank cs).length
  cs.take (cs.length - min (cs.length - limit) blanks)

/-- Cuts a text that is too wide; a mark stands for what was cut off. -/
def crop
    (limit : Nat)
    (cs : List Char) :
    List Char :=
  if width cs ≤ limit then cs else takeWidth (limit - 1) cs ++ ['…']

/-- The distance of tab stops. -/
def tabWidth : Nat := 8

/-- Writes blanks for the tabs between some pieces, from the given column on. -/
def joinByTabs : Nat → List (List Char) → List Char
  | _, [] => []
  | _, [piece] => piece
  | column, piece :: rest =>
      let piece := piece ++ [' ']
      let column := column + width piece
      let more := (tabWidth - column % tabWidth) % tabWidth
      piece ++ List.replicate more ' ' ++ joinByTabs (column + more) rest

/-- Writes blanks for tabs. -/
def expandTabs (cs : List Char) : List Char :=
  joinByTabs 0 (pieces '\t' cs)

/-- Whether a text is measured apart before and after a character. -/
def isLineBreak (c : Char) : Bool :=
  [0x0A, 0x0B, 0x0C, 0x0D, 0x1C, 0x1D, 0x1E, 0x85, 0x2028, 0x2029].contains c.toNat

/-- The parts of a text that are measured apart. -/
def measuredLines : List Char → List (List Char)
  | [] => [[]]
  | c :: cs =>
      if isLineBreak c then
        [] :: measuredLines cs
      else
        match measuredLines cs with
        | [] => [[c]]
        | line :: rest => (c :: line) :: rest

/-- Fills a text up with blanks. -/
def pad
    (columns : Nat)
    (cs : List Char) :
    List Char :=
  cs ++ List.replicate (columns - width cs) ' '

end Text
end PageScripts
