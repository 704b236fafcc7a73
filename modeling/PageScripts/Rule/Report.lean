import PageScripts.Json.Display
import PageScripts.Predicate
import PageScripts.Rule.Key

/-!
# Validation reports

A report lists the flaws of a rule set or of a manual script, the warnings about it, and its
normal form.  A flaw is kept as its cause; code, place, message and advice are read off it.
-/

namespace PageScripts

/-- What is wrong with a rule set or with the data of a manual script. -/
inductive Flaw
  | rulesNotObject (kind : Kind)
  | mode (value : Json)
  | emptyKey (key : ConditionKey)
  | unknownPredicate (key : ConditionKey)
  | argumentShape (key : ConditionKey) (kind : Kind)
  | arity (key : ConditionKey) (arity : Arity) (limit : Int) (argument : Json)
  | dataNotObject
  | handle (value : Json)
  | source (value : Json)
  | dependencies
  | strategy (value : Json)
  deriving DecidableEq

/-- A JSON pointer to a member: `~` is written `~0` and `/` is written `~1`. -/
def pointerChars : List Char → List Char
  | [] => []
  | '~' :: rest => '~' :: '0' :: pointerChars rest
  | '/' :: rest => '~' :: '1' :: pointerChars rest
  | c :: rest => c :: pointerChars rest

/-- The JSON pointer to a member of the validated object. -/
def pointer (key : String) : String :=
  String.ofList ('/' :: pointerChars key.toList)

namespace Flaw

/-- The stable code of a kind of flaw. -/
def code : Flaw → String
  | rulesNotObject _ => "E_NOT_AN_OBJECT"
  | mode _ => "E_MODE_INVALID"
  | emptyKey _ => "E_KEY_EMPTY"
  | unknownPredicate _ => "E_PRED_UNKNOWN"
  | argumentShape _ _ => "E_ARGUMENT_SHAPE"
  | arity _ _ _ _ => "E_ARITY_MISMATCH"
  | dataNotObject => "E_NOT_AN_OBJECT"
  | handle _ => "E_HANDLE_INVALID"
  | source _ => "E_SRC_INVALID"
  | dependencies => "E_DEPS_INVALID"
  | strategy _ => "E_STRATEGY_INVALID"

/-- The pointer to what the flaw is about. -/
def path : Flaw → String
  | rulesNotObject _ => "/"
  | mode _ => pointer "__mode"
  | emptyKey key => pointer key.wire
  | unknownPredicate key => pointer key.wire
  | argumentShape key _ => pointer key.wire
  | arity key _ _ _ => pointer key.wire
  | dataNotObject => "/"
  | handle _ => "/handle"
  | source _ => "/src"
  | dependencies => "/deps"
  | strategy _ => "/strategy"

/-- The flaw in words. -/
def message : Flaw → String
  | rulesNotObject kind =>
      "Zestaw reguł musi być obiektem JSON, otrzymano " ++ kind.name ++ "."
  | mode value => "Nieznany tryb dopasowania " ++ value.literal ++ "."
  | emptyKey _ => "Klucz warunku nie zawiera nazwy predykatu."
  | unknownPredicate key => "Predykat '" ++ key.predicate ++ "' nie istnieje w rejestrze."
  | argumentShape key kind =>
      "Argument warunku '" ++ key.display ++ "' ma niedozwolony typ " ++ kind.name ++ "."
  | arity key shape _ argument =>
      "Predykat '" ++ key.predicate ++ "' (arność " ++ shape.word ++ ") nie przyjmuje argumentu "
        ++ argument.literal ++ "."
  | dataNotObject => "Dane skryptu muszą być obiektem."
  | handle value => "Nieprawidłowy handle " ++ value.literal ++ "."
  | source value => "Nieprawidłowy adres skryptu " ++ value.literal ++ "."
  | dependencies =>
      "Zależności muszą być napisem rozdzielanym przecinkami lub listą napisów."
  | strategy value => "Nieznana strategia ładowania " ++ value.literal ++ "."

/-- How to mend the flaw. -/
def remedy : Flaw → String
  | rulesNotObject _ =>
      "Prześlij obiekt \x7bwarunek: argument, \"__mode\": \"any\"|\"all\"\x7d."
  | mode _ => "Ustaw \"__mode\" na \"any\" lub \"all\"."
  | emptyKey _ => "Użyj nazwy predykatu lub \"__neg:\" + nazwa."
  | unknownPredicate _ => "Użyj predykatu z listy `psa predicates`."
  | argumentShape _ _ => "Argument musi być true, skalarem lub listą skalarów."
  | arity _ .nullary _ _ => "Użyj true dla wywołania bez argumentów."
  | arity _ _ limit _ => "Podaj co najwyżej " ++ toString limit ++ " argument(y)."
  | dataNotObject =>
      "Prześlij obiekt z polami handle, src, ver, deps, in_footer, strategy."
  | handle _ => "Handle może zawierać tylko litery, cyfry, '_' i '-'."
  | source _ => "Podaj pełny adres URL http(s)://…"
  | dependencies => "Np. \"jquery, wp-util\"."
  | strategy _ => "Użyj \"none\", \"async\" lub \"defer\"."

/-- Further facts about the flaw. -/
def details : Flaw → Option Fields
  | mode value => some [("mode", value)]
  | unknownPredicate key => some [("pred", .str key.predicate)]
  | arity _ shape limit _ => some [("arity", .str shape.word), ("max_args", .int limit)]
  | _ => none

end Flaw

/-- What is odd about a rule set that may be used all the same. -/
inductive Warning
  | truncated (limit : Nat)
  | contradiction (predicate : String)
  | noConditions
  deriving DecidableEq, Repr

/-- The warning in words. -/
def Warning.message : Warning → String
  | truncated limit => "Przerwano po " ++ toString limit ++ " błędach."
  | contradiction predicate =>
      "Warunki '" ++ predicate ++ "' i 'NOT " ++ predicate ++ "' występują razem."
  | noConditions =>
      "Zestaw reguł bez warunków nigdy nie pasuje; aby przywrócić zachowanie domyślne, "
        ++ "usuń reguły."

/-- The flaws and warnings of what was validated, and its normal form if it has one. -/
structure Report where
  flaws : List Flaw := []
  warnings : List Warning := []
  normalized : Option Fields := none
  deriving DecidableEq

/-- Whether there is no flaw. -/
def Report.isValid (report : Report) : Bool :=
  report.flaws.isEmpty

/-- The flaws on one line. -/
def Report.summary (report : Report) : String :=
  "; ".intercalate (report.flaws.map fun flaw => flaw.path ++ ": " ++ flaw.message)

end PageScripts
