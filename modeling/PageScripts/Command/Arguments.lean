import PageScripts.Listing
import PageScripts.Name
import PageScripts.Text.Digit
import PageScripts.Text.Pieces

/-!
# Arguments of a command line

A grammar lists the options and the operands of a command.  The arguments are first sorted into
words and options, and then taken one after another: an option with the words it needs, and as
many operands as the words before the next option suffice for.

* A long option may be shortened as long as only one option begins that way, and its value may
  follow an equals sign.
* The value of a short option may follow it directly, and short flags may be written together.
* After a double dash there are only words.
* A word that looks like a negative number or holds a space is no option, unless it is written
  like one of the grammar's.

What fits nowhere is kept apart, because it is refused only after everything else was taken.
-/

namespace PageScripts
namespace Command

/-- Why the arguments are not carried out: they are wrong, or ask for something else. -/
inductive Stop
  | usage
  | version
  | help
  deriving DecidableEq, Repr

/-- What an option stands for. -/
inductive OptionKind
  | flag
  | value
  | values
  | stop (stop : Stop)
  deriving DecidableEq, Repr

/-- An option: its key among the results, its names, the values it may have (any if none are
listed), and the keys of the options that exclude it. -/
structure OptionSpec where
  key : String
  names : List String
  kind : OptionKind
  choices : List String := []
  required : Bool := false
  rivals : List String := []
  deriving DecidableEq, Repr

/-- How many words an operand consists of; the word of an optional one has a default, and a
command takes everything that is left. -/
inductive OperandKind
  | one
  | optional (missing : String)
  | many
  | command
  deriving DecidableEq, Repr

/-- An operand: its key among the results, and the words it may have (any if none are
listed). -/
structure Operand where
  key : String
  kind : OperandKind
  choices : List String := []
  deriving DecidableEq, Repr

/-- The options and operands of a command. -/
structure Grammar where
  options : List OptionSpec := []
  operands : List Operand := []

/-- The words given for options and operands. -/
abbrev Values := Listing String (List String)

/-! ## Sorting arguments -/

/-- An option that was found: which one, by which name, and the text attached to it. -/
structure Found where
  spec : OptionSpec
  name : String
  attached : Option String := none

/-- An argument: a word, the double dash, or an option. -/
inductive Piece
  | word (text : String)
  | divider
  | option (text : String) (found : Option Found)

/-- The argument as it was written. -/
def Piece.text : Piece → String
  | word text => text
  | divider => "--"
  | option text _ => text

/-- Whether the argument is an option. -/
def Piece.isOption : Piece → Bool
  | option _ _ => true
  | _ => false

/-- The options under their names. -/
def Grammar.named (grammar : Grammar) : Listing String OptionSpec :=
  grammar.options.flatMap fun spec => spec.names.map fun name => (name, spec)

/-- Whether a text looks like a negative number. -/
def isNegativeNumber (s : String) : Bool :=
  let isDigit (c : Char) : Bool := (Text.digitValue? c).isSome
  match chomp s.toList with
  | '-' :: body =>
      match Text.cutFirst '.' body with
      | (whole, some places) => whole.all isDigit && !places.isEmpty && places.all isDigit
      | (whole, none) => !whole.isEmpty && whole.all isDigit
  | _ => false

/-- An argument without what follows its first equals sign, and what follows. -/
def cutValue (s : String) : String × Option String :=
  let (name, value) := Text.cutFirst '=' s.toList
  (String.ofList name, value.map String.ofList)

/-- The options that an argument may be short for. -/
def candidates
    (grammar : Grammar)
    (argument : String) :
    List Found :=
  if "--".toList.isPrefixOf argument.toList then
    let (start, attached) := cutValue argument
    grammar.named.filterMap fun (name, spec) =>
      if start.toList.isPrefixOf name.toList then some { spec, name, attached } else none
  else
    let short := String.ofList (argument.toList.take 2)
    let rest := String.ofList (argument.toList.drop 2)
    grammar.named.filterMap fun (name, spec) =>
      if name = short then
        some { spec, name, attached := some rest }
      else if argument.toList.isPrefixOf name.toList then
        some { spec, name }
      else
        none

/-- The option that is written with its full name, and perhaps an equals sign and a value. -/
def exactOption?
    (grammar : Grammar)
    (argument : String) :
    Option Found :=
  match grammar.named.value? argument with
  | some spec => some { spec, name := argument }
  | none =>
      match cutValue argument with
      | (name, some value) =>
          (grammar.named.value? name).map fun spec => { spec, name, attached := some value }
      | _ => none

/-- Sorts one argument. -/
def pieceOf
    (grammar : Grammar)
    (argument : String) :
    Except Stop Piece :=
  if argument.toList.head? ≠ some '-' then
    .ok (.word argument)
  else
    match exactOption? grammar argument with
    | some found => .ok (.option argument (some found))
    | none =>
        if argument = "-" then
          .ok (.word argument)
        else
          match candidates grammar argument with
          | [found] => .ok (.option argument (some found))
          | [] =>
              if isNegativeNumber argument ∨ argument.toList.contains ' ' then
                .ok (.word argument)
              else
                .ok (.option argument none)
          | _ => .error .usage

/-- Sorts the arguments. -/
def piecesOf (grammar : Grammar) : List String → Except Stop (List Piece)
  | [] => .ok []
  | argument :: rest =>
      if argument = "--" then
        .ok (.divider :: rest.map Piece.word)
      else do
        let piece ← pieceOf grammar argument
        return piece :: (← piecesOf grammar rest)

/-! ## Taking arguments -/

/-- What has been taken, and what is left to be taken. -/
structure Reading where
  pieces : List Piece
  operands : List Operand
  values : Values := []
  extras : List String := []

/-- Whether the words are among the choices. -/
def allowed
    (choices words : List String) :
    Bool :=
  choices.isEmpty || words.all choices.contains

/-- The double dashes in front. -/
def takeDividers : List Piece → List String × List Piece
  | .divider :: rest =>
      let (texts, rest) := takeDividers rest
      ("--" :: texts, rest)
  | pieces => ([], pieces)

/-- The words in front. -/
def takeWords : List Piece → List String × List Piece
  | .word text :: rest =>
      let (texts, rest) := takeWords rest
      (text :: texts, rest)
  | pieces => ([], pieces)

/-- The words and double dashes in front. -/
def takePlain : List Piece → List String × List Piece
  | .word text :: rest =>
      let (texts, rest) := takePlain rest
      (text :: texts, rest)
  | .divider :: rest =>
      let (texts, rest) := takePlain rest
      ("--" :: texts, rest)
  | pieces => ([], pieces)

/-- The arguments that an operand consists of, and those that are left. -/
def takeOperand
    (kind : OperandKind)
    (pieces : List Piece) :
    Option (List String × List Piece) :=
  let (before, pieces) := takeDividers pieces
  match kind, pieces with
  | .one, .word text :: rest =>
      let (after, rest) := takeDividers rest
      some (before ++ text :: after, rest)
  | .optional _, .word text :: rest =>
      let (after, rest) := takeDividers rest
      some (before ++ text :: after, rest)
  | .optional _, pieces => some (before, pieces)
  | .many, .word text :: rest =>
      let (after, rest) := takePlain rest
      some (before ++ text :: after, rest)
  | .command, .word text :: rest => some (before ++ text :: rest.map Piece.text, [])
  | _, _ => none

/-- The words that the arguments of an operand mean.  One double dash is only a divider; where
it is all there is, the operand stands without words. -/
def operandWords
    (kind : OperandKind)
    (arguments : List String) :
    List String :=
  match kind with
  | .command => arguments
  | .optional missing =>
      let words := arguments.erase "--"
      if words.isEmpty then [missing] else words
  | _ => arguments.erase "--"

/-- Takes operands as long as the words suffice. -/
def takeOperands
    (values : Values)
    (pieces : List Piece) :
    List Operand → Except Stop (Values × List Piece × List Operand)
  | [] => .ok (values, pieces, [])
  | operand :: rest =>
      match takeOperand operand.kind pieces with
      | none => .ok (values, pieces, operand :: rest)
      | some (arguments, pieces) =>
          let words := operandWords operand.kind arguments
          let checked := if operand.kind = .command then words.take 1 else words
          if allowed operand.choices checked then
            takeOperands (values.put operand.key words) pieces rest
          else
            .error .usage

/-- The options in one argument, each with its words, and the arguments that are left.  Behind a
short flag there may be further short options.  An option with a double dash for its value stands
without words. -/
def unfoldOption
    (grammar : Grammar) :
    Nat → Found → List Piece → Except Stop (List (OptionSpec × List String) × List Piece)
  | 0, _, _ => .error .usage
  | fuel + 1, found, rest =>
      match found.spec.kind, found.attached with
      | .value, some text => .ok ([(found.spec, [text].erase "--")], rest)
      | .values, some text => .ok ([(found.spec, [text].erase "--")], rest)
      | .value, none =>
          match rest with
          | .word text :: rest => .ok ([(found.spec, [text])], rest)
          | _ => .error .usage
      | .values, none =>
          match takeWords rest with
          | ([], _) => .error .usage
          | (texts, rest) => .ok ([(found.spec, texts)], rest)
      | _, none => .ok ([(found.spec, [])], rest)
      | _, some text =>
          match found.name.toList, text.toList with
          | ['-', _], c :: tail =>
              let name := String.ofList ['-', c]
              match grammar.named.value? name with
              | none => .error .usage
              | some spec => do
                  let attached := if tail.isEmpty then none else some (String.ofList tail)
                  let (more, rest) ←
                    unfoldOption grammar fuel { spec, name, attached } rest
                  return ((found.spec, []) :: more, rest)
          | _, _ => .error .usage

/-- Takes an option over: its words have to be allowed and its rivals absent. -/
def applyOption
    (values : Values)
    (entry : OptionSpec × List String) :
    Except Stop Values :=
  let (spec, words) := entry
  if !allowed spec.choices words ∨ spec.rivals.any values.has then
    .error .usage
  else
    match spec.kind with
    | .stop stop => .error stop
    | _ => .ok (values.put spec.key words)

/-- Takes all arguments, one option or run of words at a time. -/
def readPieces
    (grammar : Grammar) :
    Nat → Reading → Except Stop Reading
  | 0, reading => .ok reading
  | fuel + 1, reading =>
      match reading.pieces with
      | [] => .ok reading
      | .option text none :: rest =>
          readPieces grammar fuel
            { reading with pieces := rest, extras := reading.extras ++ [text] }
      | .option text (some found) :: rest => do
          let (entries, rest) ← unfoldOption grammar (text.length + 1) found rest
          let values ← entries.foldlM applyOption reading.values
          readPieces grammar fuel { reading with pieces := rest, values }
      | pieces => do
          let (values, left, operands) ← takeOperands reading.values pieces reading.operands
          let reading := { reading with values, operands }
          if left.length < pieces.length then
            readPieces grammar fuel { reading with pieces := left }
          else
            let plain := pieces.takeWhile fun piece => !piece.isOption
            readPieces grammar fuel
              { reading with
                pieces := pieces.drop plain.length
                extras := reading.extras ++ plain.map Piece.text }

/-- Whether an operand has to be there. -/
def Operand.isRequired (operand : Operand) : Bool :=
  match operand.kind with
  | .optional _ => false
  | _ => true

/-- Reads arguments by a grammar.  The arguments that fit nowhere come with the values. -/
def readArguments
    (grammar : Grammar)
    (arguments : List String) :
    Except Stop (Values × List String) := do
  let pieces ← piecesOf grammar arguments
  let start : Reading := { pieces, operands := grammar.operands }
  let reading ← readPieces grammar (2 * pieces.length + 2) start
  let (values, _, operands) ← takeOperands reading.values [] reading.operands
  if operands.any Operand.isRequired
      ∨ grammar.options.any fun spec => spec.required && !values.has spec.key then
    throw .usage
  else
    return (values, reading.extras)

end Command
end PageScripts
