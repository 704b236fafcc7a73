import PageScripts.Command.Colour

/-!
# Styles

A style is written in words, such as `bold`, `not italic`, `red`, `on blue` or `link` with an
address.  The written form of a style that was read (`Style.text`) has its words in a fixed
order; two texts name the same style when their normal forms (`Style.normalText`) agree.
-/

namespace PageScripts

/-- What a style may ask of letters. -/
inductive StyleTrait
  | bold
  | dim
  | italic
  | underline
  | blink
  | blinkFast
  | reverse
  | conceal
  | strike
  | underlineTwice
  | frame
  | encircle
  | overline
  deriving DecidableEq, Repr

namespace StyleTrait

/-- All traits, in the order in which they are written. -/
def all : List StyleTrait :=
  [ bold, dim, italic, underline, blink, blinkFast, reverse, conceal, strike, underlineTwice,
    frame, encircle, overline ]

/-- The word for a trait. -/
def word : StyleTrait → String
  | bold => "bold"
  | dim => "dim"
  | italic => "italic"
  | underline => "underline"
  | blink => "blink"
  | blinkFast => "blink2"
  | reverse => "reverse"
  | conceal => "conceal"
  | strike => "strike"
  | underlineTwice => "underline2"
  | frame => "frame"
  | encircle => "encircle"
  | overline => "overline"

/-- The short word for a trait, if it has one. -/
def shortWord? : StyleTrait → Option String
  | bold => some "b"
  | dim => some "d"
  | italic => some "i"
  | underline => some "u"
  | reverse => some "r"
  | conceal => some "c"
  | strike => some "s"
  | underlineTwice => some "uu"
  | overline => some "o"
  | _ => none

/-- The trait that a word names. -/
def ofWord? (text : String) : Option StyleTrait :=
  all.find? fun trait => trait.word == text || trait.shortWord? == some text

end StyleTrait

/-- A style; a trait may be asked for or ruled out. -/
structure Style where
  traits : Listing StyleTrait Bool := []
  colour : Option String := none
  ground : Option String := none
  link : Option String := none
  deriving DecidableEq, Repr

namespace Style

/-- Adds words to a style.  There is no style if a word has no meaning. -/
def addWords : Style → List String → Except Unshown (Option Style)
  | style, [] => .ok (some style)
  | style, first :: rest => do
      let word := Text.lower first
      if word = "on" then
        match rest with
        | [] => return none
        | second :: rest =>
            match (← Colour.ofWord? second) with
            | some ground => addWords { style with ground := some ground } rest
            | none => return none
      else if word = "not" then
        match rest with
        | [] => return none
        | second :: rest =>
            match StyleTrait.ofWord? second with
            | some trait => addWords { style with traits := style.traits.put trait false } rest
            | none => return none
      else if word = "link" then
        match rest with
        | [] => return none
        | second :: rest => addWords { style with link := some second } rest
      else
        match StyleTrait.ofWord? word with
        | some trait => addWords { style with traits := style.traits.put trait true } rest
        | none =>
            match (← Colour.ofWord? word) with
            | some colour => addWords { style with colour := some colour } rest
            | none => return none

/-- The words of a text. -/
def wordsOf (text : String) : List String :=
  ((Text.words text.toList).map fun word => String.ofList (Text.trimChars word)).filter (· != "")

/-- The style that a text names; `none` is the style without anything. -/
def ofText? (text : String) : Except Unshown (Option Style) :=
  if Text.trim text = "none" then
    .ok (some {})
  else
    addWords {} (wordsOf text)

/-- How a style is written. -/
def text (style : Style) : String :=
  let traits := StyleTrait.all.filterMap fun trait =>
    (style.traits.value? trait).map fun wanted =>
      if wanted then trait.word else "not " ++ trait.word
  let parts :=
    traits ++ style.colour.toList ++ (style.ground.map ("on " ++ ·)).toList
      ++ (style.link.map ("link " ++ ·)).toList
  if parts.isEmpty then "none" else " ".intercalate parts

/-- The normal form of a text that should name a style; a text that names none is put into lower
case. -/
def normalText (text : String) : Except Unshown String := do
  match (← ofText? text) with
  | some style => return style.text
  | none => return Text.lower (Text.trim text)

end Style
end PageScripts
