import PageScripts.Listing
import PageScripts.Markup.Entity
import PageScripts.Text.Case
import PageScripts.Text.Slug

/-!
# Tags of a page

A page is read as a sequence of opening and closing tags; all else is passed over.  Names are
in lower case, an attribute without a value has the empty text, and a repeated attribute takes
its last value.  What follows an opening `script` or `style` tag belongs to that element up to
its own closing tag.

A construct that the page does not finish ends a first reading.  A second reading goes on
from there and takes such a construct for text up to the next `>`.
-/

namespace PageScripts
namespace Markup

open Text (isBlank)

/-- A tag of a page. -/
inductive Token
  | opening (name : String) (attributes : Listing String String) (closed : Bool)
  | closing (name : String)
  deriving DecidableEq, Repr

/-- A page is refused when a marked section has no known status word, or when a character is
given by a number of too many digits. -/
inductive PageError
  | markedSection
  | longNumber (digits : Nat)
  deriving DecidableEq, Repr

/-- Whether a character ends a tag name. -/
def endsName (c : Char) : Bool :=
  c == '\t' || c == '\n' || c == '\r' || c.toNat == 0x0C || c == ' ' || c == '/' || c == '>'
    || c.toNat == 0

/-- A tag name and what follows it. -/
def takeName (cs : List Char) : List Char × List Char :=
  (cs.takeWhile (!endsName ·), cs.dropWhile (!endsName ·))

/-- Skips blanks and slashes, but not a slash before `>`. -/
def skipJoints : List Char → List Char
  | [] => []
  | '/' :: rest => if rest.head? = some '>' then '/' :: rest else skipJoints rest
  | c :: rest => if isBlank c then skipJoints rest else c :: rest

/-- A value after its equals sign: quoted, or up to a blank or `>`.  A quote that is not closed
gives no value. -/
def takeQuoted (cs : List Char) : Option (List Char × List Char) :=
  match cs with
  | '\'' :: rest =>
      match Text.cutFirst '\'' rest with
      | (value, some after) => some (value, after)
      | _ => none
  | '"' :: rest =>
      match Text.cutFirst '"' rest with
      | (value, some after) => some (value, after)
      | _ => none
  | _ =>
      let inside (c : Char) : Bool := !isBlank c && c != '>'
      some (cs.takeWhile inside, cs.dropWhile inside)

/-- A value with the equals signs and blanks before it.  When a quote is not closed, a blank
before it or an equals sign before it makes an empty or a bare value. -/
def takeValue (cs : List Char) : Option (List Char × List Char) :=
  let cs := cs.dropWhile isBlank
  let signs := cs.takeWhile (· == '=')
  if signs.isEmpty then
    none
  else
    let after := cs.drop signs.length
    let start := after.dropWhile isBlank
    match takeQuoted start with
    | some found => some found
    | none =>
        if start.length < after.length then
          some ([], after)
        else if 1 < signs.length then
          takeQuoted ('=' :: after)
        else
          none

/-- An attribute as it is written. -/
structure RawAttribute where
  name : List Char
  value : List Char
  rest : List Char

/-- An attribute; one may start only after a blank, a slash or a quote. -/
def takeAttribute
    (before : Char)
    (cs : List Char) :
    Option RawAttribute :=
  if !(before == '\'' || before == '"' || before == '/' || isBlank before) then
    none
  else
    match cs with
    | [] => none
    | c :: tail =>
        if isBlank c || c == '/' || c == '>' then
          none
        else
          let inside (c : Char) : Bool := !isBlank c && c != '/' && c != '=' && c != '>'
          let name := c :: tail.takeWhile inside
          let rest := tail.dropWhile inside
          match takeValue rest with
          | some (value, rest) => some ⟨name, value, rest⟩
          | none => some ⟨name, [], rest⟩

/-- The character before what is left of a text; `first` stands before the whole. -/
def charBefore
    (first : Char)
    (whole rest : List Char) :
    Char :=
  ((whole.take (whole.length - rest.length)).getLast?).getD first

/-- The attributes of a tag and what follows them; `before` is the character in front. -/
def takeAttributes :
    Nat → Char → List Char → List RawAttribute × List Char
  | 0, _, cs => ([], cs)
  | fuel + 1, before, cs =>
      match takeAttribute before cs with
      | none => ([], cs)
      | some found =>
          let rest := skipJoints found.rest
          let (more, after) := takeAttributes fuel (charBefore before cs rest) rest
          (found :: more, after)

/-- How a tag that has been started ends. -/
inductive TagEnd
  | unfinished
  | broken (rest : List Char)
  | finished (closed : Bool) (rest : List Char)

/-- Where the tag ends whose name ends in `last` and is followed by the given text: at `>`, at
`/>`, or at a character that cannot stand in a tag. -/
def tagEnd
    (last : Char)
    (afterName : List Char) :
    TagEnd :=
  let start := afterName.dropWhile fun c => isBlank c || c == '/'
  let (_, rest) := takeAttributes (start.length + 1) (charBefore last afterName start) start
  let rest := rest.dropWhile isBlank
  match rest with
  | [] => .unfinished
  | '>' :: after => .finished false after
  | '/' :: '>' :: after => .finished true after
  | c :: _ =>
      if c == '/' || c == '=' || Url.isLetter c then .unfinished else .broken rest

/-- The attributes of a tag as a listing. -/
def attributeListing (raw : List RawAttribute) : Listing String String :=
  Listing.ofEntries (raw.map fun a =>
    (Text.lower (String.ofList a.name), String.ofList (unescape a.value)))

/-- What a construct that starts with `<` comes to. -/
inductive Construct
  | unfinished
  | refused (why : PageError)
  | skipped (rest : List Char)
  | tag (token : Token) (rest : List Char)

/-- A construct with attributes, unless one of them has to be refused. -/
def withAttributes
    (raw : List RawAttribute)
    (result : Construct) :
    Construct :=
  match raw.findSome? fun a => overlong? a.value with
  | some digits => .refused (.longNumber digits)
  | none => result

/-- An opening tag, from its name on. -/
def openingTag (cs : List Char) : Construct :=
  let (name, afterName) := takeName cs
  let last := name.getLast?.getD ' '
  let start := skipJoints afterName
  let (raw, ending) :=
    takeAttributes (start.length + 1) (charBefore last afterName start) start
  match tagEnd last afterName with
  | .unfinished => .unfinished
  | .broken rest => withAttributes raw (.skipped rest)
  | .finished _ rest =>
      let ending := Text.trimChars (ending.take (ending.length - rest.length))
      let lowered := Text.lower (String.ofList name)
      let result : Construct :=
        if ending = ['>'] then
          .tag (.opening lowered (attributeListing raw) false) rest
        else if ending = ['/', '>'] then
          .tag (.opening lowered (attributeListing raw) true) rest
        else
          .skipped rest
      withAttributes raw result

/-- The rest after the next `>`. -/
def afterAngle (cs : List Char) : Option (List Char) :=
  (Text.cutFirst '>' cs).2

/-- A construct that ends at the next `>` and holds no tag. -/
def skipToAngle (cs : List Char) : Construct :=
  match afterAngle cs with
  | some rest => .skipped rest
  | none => .unfinished

/-- Whether a character may stand in a closing tag's plain name. -/
def isPlainNameChar (c : Char) : Bool :=
  Text.isAlnum c || c == '-' || c == '.' || c == ':' || c == '_'

/-- A closing tag, from after `</`. -/
def closingTag (cs : List Char) : Construct :=
  match afterAngle cs with
  | none => .unfinished
  | some rest =>
      let start := cs.dropWhile isBlank
      let plain := start.takeWhile isPlainNameChar
      let afterPlain := (start.drop plain.length).dropWhile isBlank
      let startsPlain := (start.head?.map Url.isLetter).getD false
      if startsPlain ∧ afterPlain.head? = some '>' then
        .tag (.closing (Text.lower (String.ofList plain))) rest
      else if (cs.head?.map Url.isLetter).getD false then
        let (name, afterName) := takeName cs
        .tag (.closing (Text.lower (String.ofList name))) ((afterAngle afterName).getD [])
      else
        .skipped rest

/-- The rest after the first end of a comment: two dashes, blanks and `>`. -/
def afterComment : List Char → Option (List Char)
  | [] => none
  | c :: rest =>
      let ending :=
        match c, rest with
        | '-', '-' :: tail =>
            match tail.dropWhile isBlank with
            | '>' :: after => some after
            | _ => none
        | _, _ => none
      match ending with
      | some after => some after
      | none => afterComment rest

/-- The rest after the first end of a marked section: the given number of closing brackets
with blanks after each, and `>`. -/
def afterBrackets
    (double : Bool) :
    List Char → Option (List Char)
  | [] => none
  | c :: rest =>
      let ending :=
        if c = ']' then
          match rest.dropWhile isBlank with
          | '>' :: after => if double then none else some after
          | ']' :: tail =>
              if double then
                match tail.dropWhile isBlank with
                | '>' :: after => some after
                | _ => none
              else
                none
          | _ => none
        else
          none
      match ending with
      | some after => some after
      | none => afterBrackets double rest

/-- A marked section, from after `<![`. -/
def markedSection (cs : List Char) : Construct :=
  match cs with
  | [] => .unfinished
  | c :: _ =>
      if !Url.isLetter c then
        .refused .markedSection
      else
        let inName (c : Char) : Bool := Text.isAlnum c || c == '-' || c == '_' || c == '.'
        let name := cs.takeWhile inName
        if ((cs.drop name.length).dropWhile isBlank).isEmpty then
          .unfinished
        else
          let word := String.ofList (name.map Char.toLower)
          let finish (double : Bool) : Construct :=
            match afterBrackets double cs with
            | some rest => .skipped rest
            | none => .unfinished
          if ["temp", "cdata", "ignore", "include", "rcdata"].contains word then
            finish true
          else if ["if", "else", "endif"].contains word then
            finish false
          else
            .refused .markedSection

/-- The construct after `<`. -/
def construct (cs : List Char) : Construct :=
  match cs with
  | [] => .unfinished
  | '/' :: rest => closingTag rest
  | '!' :: '-' :: '-' :: rest =>
      match afterComment rest with
      | some after => .skipped after
      | none => .unfinished
  | '?' :: rest => skipToAngle rest
  | '!' :: '[' :: rest => markedSection rest
  | '!' :: rest =>
      if (rest.take 7).map Char.toLower = "doctype".toList then
        skipToAngle (rest.drop 7)
      else
        skipToAngle rest
  | c :: rest => if Url.isLetter c then openingTag cs else .skipped (c :: rest)

/-- The rest after the closing tag of the element whose content is plain text. -/
def afterPlainText
    (element : List Char) :
    List Char → Option (List Char)
  | [] => none
  | c :: rest =>
      let ending :=
        match c, rest with
        | '<', '/' :: tail =>
            let start := tail.dropWhile isBlank
            if (start.take element.length).map Char.toLower = element then
              match (start.drop element.length).dropWhile isBlank with
              | '>' :: after => some after
              | _ => none
            else
              none
        | _, _ => none
      match ending with
      | some after => some after
      | none => afterPlainText element rest

/-- The content of these elements is plain text. -/
def plainTextElements : List String :=
  ["script", "style"]

/-- What a reading does at an ampersand. -/
inductive Ampersand
  | goOn (rest : List Char)
  | stopAt (rest : List Char)
  | refused (why : PageError)

/-- What follows an ampersand in running text.  A number that is not ended properly stops the
reading, and one of too many digits is refused. -/
def ampersand (cs : List Char) : Ampersand :=
  match cs with
  | [] => .stopAt []
  | '#' :: tail =>
      let digits := tail.takeWhile isDecimal
      let hexTail := tail.drop 1
      let hexDigits := hexTail.takeWhile Url.isHex
      let decimalEnd := tail.drop digits.length
      let hexEnd := hexTail.drop hexDigits.length
      let decimalFits :=
        !digits.isEmpty && (decimalEnd.head?.map (!Url.isHex ·)).getD false
      let hexFits :=
        (tail.head? == some 'x' || tail.head? == some 'X') && !hexDigits.isEmpty
          && !hexEnd.isEmpty
      if decimalFits then
        match tooLong? cs with
        | some digits => .refused (.longNumber digits)
        | none => .goOn decimalEnd
      else if hexFits then
        .goOn hexEnd
      else if tail.contains ';' then
        .stopAt tail
      else
        .stopAt ('&' :: cs)
  | c :: rest =>
      if Url.isLetter c then
        .goOn (rest.dropWhile fun c => Text.isAlnum c || c == '-' || c == '.')
      else
        .goOn cs

/-- Where a construct that is never finished ends as text: after the next `>`, else before the
next `<`. -/
def asText (cs : List Char) : List Char :=
  match afterAngle cs with
  | some rest => rest
  | none => cs.dropWhile (· != '<')

/-- How a reading ends: refused, or with the tags so far and the text that is left. -/
inductive Reading
  | refused (why : PageError)
  | stopped (tokens : List Token) (plain : Option String) (rest : List Char)

/-- Reads tags; `plain` is the element whose content is being read as plain text, and `acc`
holds the tags so far in reverse. -/
def readTags
    (final : Bool) :
    Nat → Option String → List Char → List Token → Reading
  | 0, plain, cs, acc => .stopped acc plain cs
  | fuel + 1, some element, cs, acc =>
      match afterPlainText element.toList cs with
      | none => .stopped acc (some element) cs
      | some rest => readTags final fuel none rest (.closing element :: acc)
  | fuel + 1, none, cs, acc =>
      match cs.dropWhile fun c => c != '&' && c != '<' with
      | [] => .stopped acc none []
      | '<' :: rest =>
          match construct rest with
          | .refused why => .refused why
          | .unfinished =>
              if final then
                readTags final fuel none (asText rest) acc
              else
                .stopped acc none ('<' :: rest)
          | .skipped after => readTags final fuel none after acc
          | .tag token after =>
              let plain :=
                match token with
                | .opening name _ false =>
                    if plainTextElements.contains name then some name else none
                | _ => none
              readTags final fuel plain after (token :: acc)
      | _ :: rest =>
          match ampersand rest with
          | .goOn after => readTags final fuel none after acc
          | .stopAt after => .stopped acc none after
          | .refused why => .refused why

/-- The tags of a page, in order. -/
def tokens (page : String) : Except PageError (List Token) :=
  let cs := page.toList
  match readTags false (cs.length + 1) none cs [] with
  | .refused why => .error why
  | .stopped acc plain rest =>
      match readTags true (rest.length + 1) plain rest acc with
      | .refused why => .error why
      | .stopped acc _ _ => .ok acc.reverse

end Markup
end PageScripts
