import PageScripts.Text.Blank
import PageScripts.Text.Skeleton
import PageScripts.Url.Ip

/-!
# Addresses in five parts

An address is taken apart into scheme, network location, path, query and fragment.  Controls
and spaces in front, and tabs and line breaks anywhere, do not belong to it.  A scheme starts
with an ASCII letter and is put into lower case; the location is what follows `//` up to the
next slash, question mark or hash.

An address is refused when its brackets do not enclose exactly one numeric host, or when a
character of its location stands for one of the marks that part an address.
-/

namespace PageScripts
namespace Url

/-- The five parts of an address. -/
structure Address where
  scheme : String
  location : String
  path : String
  query : String
  fragment : String
  deriving DecidableEq, Repr

/-- Why an address cannot be taken apart. -/
inductive AddressError
  | brackets
  | bracketedHost (host : String)
  | disguisedMark (location : String)
  deriving DecidableEq, Repr

/-- Leaves out what does not belong to an address. -/
def clean (cs : List Char) : List Char :=
  (cs.dropWhile fun c => c.toNat ≤ 0x20).filter fun c => c != '\t' && c != '\r' && c != '\n'

/-- Whether a character is an ASCII letter. -/
def isLetter (c : Char) : Bool :=
  ('a' ≤ c && c ≤ 'z') || ('A' ≤ c && c ≤ 'Z')

/-- Whether a character may stand in a scheme. -/
def isSchemeChar (c : Char) : Bool :=
  isLetter c || ('0' ≤ c && c ≤ '9') || c == '+' || c == '-' || c == '.'

/-- The scheme in lower case, or the empty text, and what follows it. -/
def takeScheme (cs : List Char) : List Char × List Char :=
  match Text.cutFirst ':' cs with
  | (c :: head, some rest) =>
      if isLetter c && head.all isSchemeChar then
        ((c :: head).map Char.toLower, rest)
      else
        ([], cs)
  | _ => ([], cs)

/-- Whether a character ends the network location. -/
def endsLocation (c : Char) : Bool :=
  c == '/' || c == '?' || c == '#'

/-- The network location, or the empty text, and what follows it. -/
def takeLocation : List Char → List Char × List Char
  | '/' :: '/' :: rest => (rest.takeWhile (!endsLocation ·), rest.dropWhile (!endsLocation ·))
  | cs => ([], cs)

/-- Whether the brackets of a location, if it has any, enclose exactly one numeric host in its
place: behind the user part, and with nothing but a port after them. -/
def checkBrackets (location : List Char) : Except AddressError Unit :=
  match location.contains '[', location.contains ']' with
  | false, false => .ok ()
  | true, true =>
      let hostPort := (Text.cutLast '@' location).2
      match Text.cutFirst '[' hostPort with
      | (before, some bracketed) =>
          let (host, port) := Text.cutFirst ']' bracketed
          let port := port.getD []
          if !before.isEmpty || (!port.isEmpty && port.head? != some ':') then
            .error .brackets
          else if isBracketedHost host then
            .ok ()
          else
            .error (.bracketedHost (String.ofList host))
      | (_, none) =>
          let host := (Text.cutFirst ':' hostPort).1
          if isBracketedHost host then
            .ok ()
          else
            .error (.bracketedHost (String.ofList host))
  | _, _ => .error .brackets

/-- Whether a character is one of the marks that part an address. -/
def isMark (c : Char) : Bool :=
  c == '/' || c == '?' || c == '#' || c == '@' || c == ':'

/-- Whether some character of a location stands for a mark without being one. -/
def hasDisguisedMark (location : List Char) : Bool :=
  location.any fun c => !isMark c && (Text.skeleton c).any isMark

/-- Takes an address apart. -/
def Address.parse (s : String) : Except AddressError Address := do
  let cs := clean s.toList
  let (scheme, rest) := takeScheme cs
  let (location, rest) := takeLocation rest
  checkBrackets location
  let (rest, fragment) := Text.cutFirst '#' rest
  let (path, query) := Text.cutFirst '?' rest
  if hasDisguisedMark location then
    .error (.disguisedMark (String.ofList location))
  else
    .ok
      { scheme := String.ofList scheme
        location := String.ofList location
        path := String.ofList path
        query := String.ofList (query.getD [])
        fragment := String.ofList (fragment.getD []) }

/-- The schemes whose addresses have a network location. -/
def locationSchemes : List String :=
  [ "", "ftp", "http", "gopher", "nntp", "telnet", "imap", "wais", "file", "mms", "https",
    "shttp", "snews", "prospero", "rtsp", "rtspu", "rsync", "svn", "svn+ssh", "sftp", "nfs",
    "git", "git+ssh", "ws", "wss" ]

/-- Puts an address together; an empty query or fragment leaves no mark behind. -/
def Address.text (a : Address) : String :=
  let path := a.path
  let rooted := path.startsWith "//"
  let body :=
    if a.location != "" || (a.scheme != "" && locationSchemes.contains a.scheme && !rooted) then
      let path := if path != "" && !path.startsWith "/" then "/" ++ path else path
      "//" ++ a.location ++ path
    else
      path
  let body := if a.scheme != "" then a.scheme ++ ":" ++ body else body
  let body := if a.query != "" then body ++ "?" ++ a.query else body
  if a.fragment != "" then body ++ "#" ++ a.fragment else body

/-- Whether a text is the full address of a page script: `http` or `https`, a network
location, and no blank anywhere. -/
def isSourceUrl (s : String) : Bool :=
  if s = "" ∨ s.toList.any Text.isBlank then
    false
  else
    match Address.parse s with
    | .ok a => (a.scheme = "http" ∨ a.scheme = "https") && a.location != ""
    | .error _ => false

end Url
end PageScripts
