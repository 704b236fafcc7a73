import PageScripts.Url.Address

/-!
# Relative addresses

A relative address is read against a base.  It takes the scheme and the location of the base,
and its path replaces what follows the last slash of the base's path; `.` and `..` are worked
off, and `..` above the root is dropped.  Only addresses of schemes that know relative
addresses are joined.
-/

namespace PageScripts
namespace Url

/-- The schemes that know relative addresses. -/
def relativeSchemes : List String :=
  [ "", "ftp", "http", "gopher", "nntp", "imap", "wais", "file", "https", "shttp", "mms",
    "prospero", "rtsp", "rtspu", "sftp", "svn", "svn+ssh", "ws", "wss" ]

/-- The schemes whose last path segment may have parameters after a semicolon. -/
def paramSchemes : List String :=
  [ "", "ftp", "hdl", "prospero", "http", "imap", "https", "shttp", "rtsp", "rtspu", "sip",
    "sips", "mms", "sftp", "tel" ]

/-- A path without the parameters of its last segment, and those parameters. -/
def cutParams
    (scheme : String)
    (path : String) :
    String × String :=
  if paramSchemes.contains scheme then
    let (parent, last) := Text.cutLast '/' path.toList
    let (last, params) := Text.cutFirst ';' last
    let whole :=
      match parent with
      | some parent => parent ++ '/' :: last
      | none => last
    (String.ofList whole, String.ofList (params.getD []))
  else
    (path, "")

/-- A path with parameters. -/
def withParams
    (path params : String) :
    String :=
  if params != "" then path ++ ";" ++ params else path

/-- Works off `.` and `..`; `acc` holds the segments so far in reverse. -/
def resolveDots
    (acc : List (List Char)) :
    List (List Char) → List (List Char)
  | [] => acc.reverse
  | ['.', '.'] :: rest => resolveDots (acc.drop 1) rest
  | ['.'] :: rest => resolveDots acc rest
  | segment :: rest => resolveDots (segment :: acc) rest

/-- Leaves out the empty segments but the first and the last. -/
def squeeze (segments : List (List Char)) : List (List Char) :=
  match segments with
  | [] => []
  | first :: rest =>
      match rest.getLast? with
      | none => [first]
      | some last => first :: rest.dropLast.filter (!·.isEmpty) ++ [last]

/-- The path that a non-empty relative path leads to from a base path. -/
def joinPath
    (base path : String) :
    String :=
  let own := Text.pieces '/' path.toList
  let segments :=
    if path.startsWith "/" then
      own
    else
      let parts := Text.pieces '/' base.toList
      let parts := if parts.getLast? = some [] then parts else parts.dropLast
      squeeze (parts ++ own)
  let resolved := resolveDots [] segments
  let ending := segments.getLast?
  let resolved :=
    if ending = some ['.'] ∨ ending = some ['.', '.'] then resolved ++ [[]] else resolved
  let joined := String.ofList (Text.joinPieces '/' resolved)
  if joined = "" then "/" else joined

/-- Reads an address against a base. -/
def join
    (base address : String) :
    Except AddressError String := do
  if base = "" then
    return address
  if address = "" then
    return base
  let b ← Address.parse base
  let a ← Address.parse address
  let scheme := if a.scheme = "" then b.scheme else a.scheme
  let (basePath, baseParams) := cutParams b.scheme b.path
  let (path, params) := cutParams scheme a.path
  if scheme ≠ b.scheme ∨ !relativeSchemes.contains scheme then
    return address
  if locationSchemes.contains scheme ∧ a.location ≠ "" then
    return Address.text { a with scheme, path := withParams path params }
  let location := if locationSchemes.contains scheme then b.location else a.location
  if path = "" ∧ params = "" then
    let query := if a.query = "" then b.query else a.query
    return Address.text
      { scheme, location, path := withParams basePath baseParams, query,
        fragment := a.fragment }
  return Address.text
    { scheme, location, path := withParams (joinPath basePath path) params,
      query := a.query, fragment := a.fragment }

end Url
end PageScripts
