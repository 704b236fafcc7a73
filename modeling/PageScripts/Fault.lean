import PageScripts.Catalog.Name
import PageScripts.Json.Reader
import PageScripts.Rule.Report
import PageScripts.Url.Address

/-!
# Faults

A fault says why an operation could not be done, as a cause with the values that matter.
The wording is in one place, `Fault.message`.

Faults come in two sorts.  The first are refusals by the rules of this library: unknown
catalogs and handles, corrupt catalogs, invalid rules and records.  The second arise where a
value has the wrong shape for what is asked of it: a number that is to be iterated, a text
that is no number, an address that cannot be taken apart, a file that cannot be read.

One fault is none of the program's.  Texts are made of characters here, and half of a pair of code
units is no character; a text of JSON may ask for one all the same.  What is done with such a text is
not followed: `loneSurrogate` stands where it would come in.
-/

namespace PageScripts

/-- Where a handle is taken already. -/
inductive Place
  | catalog (name : CatalogName)
  | queue
  deriving DecidableEq, Repr

/-- The place in words. -/
def Place.text : Place → String
  | catalog name => "katalog '" ++ name.label ++ "'"
  | queue => "zarejestrowany w kolejce"

/-- Why a file cannot be read or written; what has no name here has its number and its words. -/
inductive FileError
  | missing
  | denied
  | directory
  | notDirectory
  | tooLong
  | loop
  | other (number : Nat) (words : String)
  deriving DecidableEq, Repr

/-- The number and the words of a file error. -/
def FileError.text : FileError → String
  | missing => "[Errno 2] No such file or directory"
  | denied => "[Errno 13] Permission denied"
  | directory => "[Errno 21] Is a directory"
  | notDirectory => "[Errno 20] Not a directory"
  | tooLong => "[Errno 36] File name too long"
  | loop => "[Errno 40] Too many levels of symbolic links"
  | other number words => "[Errno " ++ toString number ++ "] " ++ words

/-- Whether the error is that nothing is there under the name. -/
def FileError.isAbsence : FileError → Bool
  | missing => true
  | notDirectory => true
  | loop => true
  | _ => false

/-- Why a request for a page has no answer that can be used: there is none, its status tells of an
error, or asking for it fails in another way. -/
inductive NoAnswer
  | unreached (words : String)
  | status (code : Int)
  | other (words : String)
  deriving DecidableEq, Repr

/-- Why there is no answer, in words. -/
def NoAnswer.text : NoAnswer → String
  | unreached words => words
  | status code => toString code ++ " Error"
  | other words => words

/-- Why a point in time has no date. -/
inductive DateError
  | year (year : Int)
  | notANumber
  | range
  | system
  deriving DecidableEq, Repr

/-- Why an operation could not be done. -/
inductive Fault
  | unknownCatalog (label : Json)
  | corruptCatalog (name : CatalogName) (found : Kind)
  | unmanagedCatalog
  | unmanagedRules
  | unknownHandle (handle : String) (catalog : CatalogName)
  | noHandle
  | duplicateHandle (handle : String) (place : Place)
  | invalidData (report : Report)
  | unknownFields (names : List String)
  | rulesNotObject (found : Kind)
  | recordNotObject (handle : String) (found : Kind)
  | contextNotObject (file : String)
  | unknownFlags (names : List String)
  | queueItem (index : Nat)
  | registryFrozen (name : String)
  | predicateName (name : String)
  | predicateTaken (name : String)
  | notFunction (name : String) (found : Kind)
  | unknownArity
  | wrongKind (found : Kind)
  | noMembers (found : Kind)
  | missingMember (name : String)
  | infiniteNumber
  | numberTooLarge
  | notANumber
  | numeral (text : String)
  | longNumeral (digits : Nat)
  | malformedJson (what : Json.Malformed)
  | malformedText
  | address (what : Url.AddressError)
  | loneSurrogate
  | unencodable
  | page
  | styling
  | noAnswer (what : NoAnswer)
  | connection
  | statement
  | refusedValue (words : String)
  | date (what : DateError)
  | file (what : FileError) (path : String)
  | output (what : FileError)
  | nulInPath
  deriving DecidableEq

namespace Fault

/-- How many characters of a quoted text that is no numeral are shown. -/
def quotedLimit : Nat := 200

/-- The fault in words. -/
def message : Fault → String
  | unknownCatalog label => "Nieznany katalog: '" ++ label.display ++ "'"
  | corruptCatalog name found =>
      "Katalog '" ++ name.label ++ "' (" ++ name.option
        ++ ") jest uszkodzony: oczekiwano obiektu, otrzymano " ++ found.name
  | unmanagedCatalog => "Katalog odkrytych nie zawiera rekordów zarządzanych"
  | unmanagedRules => "Reguły mają tylko skrypty usuwane i ręczne"
  | unknownHandle handle catalog =>
      "Skrypt '" ++ handle ++ "' nie istnieje w katalogu '" ++ catalog.label ++ "'"
  | noHandle => "no handle was given"
  | duplicateHandle handle place =>
      "Skrypt '" ++ handle ++ "' już istnieje (" ++ place.text ++ ")"
  | invalidData report => "Nieprawidłowe dane: " ++ report.summary
  | unknownFields names => "Nieznane pola skryptu: " ++ ", ".intercalate names
  | rulesNotObject found => "Zestaw reguł musi być obiektem JSON, otrzymano " ++ found.name
  | recordNotObject handle found =>
      "Rekord skryptu '" ++ handle ++ "' nie jest obiektem (otrzymano " ++ found.name ++ ")"
  | contextNotObject name => "Kontekst w " ++ name ++ " musi być obiektem JSON"
  | unknownFlags names => "Nieznane flagi trasy: " ++ ", ".intercalate names
  | queueItem index =>
      "Element kolejki #" ++ toString index ++ " musi być obiektem z polem 'handle'"
  | registryFrozen name =>
      "Rejestr jest zamrożony — nie można dodać predykatu '" ++ name ++ "'"
  | predicateName name => "Nieprawidłowa nazwa predykatu: '" ++ name ++ "'"
  | predicateTaken name => "Predykat '" ++ name ++ "' jest już zarejestrowany"
  | notFunction name found =>
      "Predykat '" ++ name ++ "' musi być wywoływalny, otrzymano " ++ found.name
  | unknownArity => "unknown arity"
  | wrongKind found => "a value of type " ++ found.name ++ " cannot be used here"
  | noMembers found => "a value of type " ++ found.name ++ " has no members"
  | missingMember name => "no member " ++ name
  | infiniteNumber => "cannot convert float infinity to integer"
  | numberTooLarge => "integer division result too large for a float"
  | notANumber => "cannot convert float NaN to integer"
  | numeral text =>
      "invalid literal for int() with base 10: "
        ++ String.ofList ((Text.quote text).toList.take quotedLimit)
  | longNumeral digits =>
      "Exceeds the limit (4300 digits) for integer string conversion: value has "
        ++ toString digits ++ " digits; use sys.set_int_max_str_digits() to increase the limit"
  | malformedJson what => what.message
  | malformedText => "the text is not valid UTF-8"
  | address .brackets => "Invalid IPv6 URL"
  | address (.bracketedHost host) =>
      Text.quote host ++ " does not appear to be an IPv4 or IPv6 address"
  | address (.disguisedMark location) =>
      "netloc '" ++ location ++ "' contains invalid characters under NFKC normalization"
  | loneSurrogate => "half of a pair of code units stands alone"
  | unencodable => "the text cannot be encoded"
  | page => "The markup was rejected"
  | styling => "a closing style tag has nothing to close"
  | noAnswer what => what.text
  | connection => "connection refused"
  | statement => "syntax error"
  | refusedValue words => words
  | date (.year year) => "year " ++ toString year ++ " is out of range"
  | date .notANumber => "Invalid value NaN (not a number)"
  | date .range => "timestamp out of range for platform time_t"
  | date .system => "[Errno 75] Value too large for defined data type"
  | file what path => what.text ++ ": " ++ Text.quote path
  | output what => what.text
  | nulInPath => "embedded null byte"

/-- Whether the fault is that a value, though of the right type, cannot be accepted.  The
commands that take such faults for the operator's report them and end in an orderly way. -/
def isBadValue : Fault → Bool
  | unknownHandle _ _ => false
  | noHandle => false
  | notFunction _ _ => false
  | wrongKind _ => false
  | noMembers _ => false
  | missingMember _ => false
  | infiniteNumber => false
  | numberTooLarge => false
  | loneSurrogate => false
  | page => false
  | styling => false
  | noAnswer _ => false
  | connection => false
  | statement => false
  | refusedValue _ => false
  | date .range => false
  | date .system => false
  | file _ _ => false
  | output _ => false
  | _ => true

/-- Whether the fault came from the file system. -/
def isFileError : Fault → Bool
  | file _ _ => true
  | output _ => true
  | date .system => true
  | _ => false

/-- Whether nothing is there under the name of a file. -/
def isAbsence : Fault → Bool
  | file what _ => what.isAbsence
  | nulInPath => true
  | _ => false

/-- Whether the page could not be fetched. -/
def isFetchError : Fault → Bool
  | noAnswer (.other _) => false
  | noAnswer _ => true
  | _ => false

/-- Whether the fault is a text that is no JSON. -/
def isMalformedJson : Fault → Bool
  | malformedJson _ => true
  | _ => false

/-- Whether the fault is a handle that the catalog does not know. -/
def isUnknownHandle : Fault → Bool
  | unknownHandle _ _ => true
  | _ => false

/-- Whether the fault is a corrupt catalog. -/
def isCorruptCatalog : Fault → Bool
  | corruptCatalog _ _ => true
  | _ => false

end Fault

namespace Json

/-- The items that a value consists of: those of a list, the characters of a text, the keys of
an object. -/
def elements (value : Json) : Except Fault (List Json) :=
  match value with
  | arr items => .ok items
  | str s => .ok (s.toList.map fun c => str (String.singleton c))
  | obj fields => .ok (fields.map fun entry => str entry.1)
  | other => .error (.wrongKind other.kind)

/-- The integer that a value stands for. -/
def toInt (value : Json) : Except Fault Int :=
  match value with
  | bool b => .ok (if b then 1 else 0)
  | int n => .ok n
  | float x =>
      match x with
      | .nan => .error .notANumber
      | .infinite _ => .error .infiniteNumber
      | x => .ok (x.truncate?.getD 0)
  | str s =>
      match Number.readInt s with
      | .ok n => .ok n
      | .error .malformed => .error (.numeral s)
      | .error (.tooLong digits) => .error (.longNumeral digits)
  | other => .error (.wrongKind other.kind)

/-- Whether a value may stand as a member of a set or as a key. -/
def isHashable : Json → Bool
  | arr _ => false
  | obj _ => false
  | _ => true

/-- Reads a text that holds one JSON value. -/
def read (s : String) : Except Fault Json :=
  match parse s with
  | .ok value => .ok value
  | .error (.malformed what) => .error (.malformedJson what)
  | .error (.longNumber digits) => .error (.longNumeral digits)
  | .error .loneSurrogate => .error .loneSurrogate

end Json
end PageScripts
