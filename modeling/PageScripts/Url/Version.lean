import PageScripts.Text.Utf8
import PageScripts.Url.Address

/-!
# The version in an address

Page scripts carry their version as the query parameter `ver`.  `splitVersion` takes all such
parameters off an address and keeps the other pairs of the query as they are written; the
version is the first of the decoded values that is not empty.
-/

namespace PageScripts
namespace Url

/-- The value of a hexadecimal digit. -/
def hexDigit? (c : Char) : Option Nat :=
  if '0' ≤ c ∧ c ≤ '9' then
    some (c.toNat - 0x30)
  else if 'a' ≤ c ∧ c ≤ 'f' then
    some (c.toNat - 0x57)
  else if 'A' ≤ c ∧ c ≤ 'F' then
    some (c.toNat - 0x37)
  else
    none

/-- The octets of an ASCII text in which `%` and two hexadecimal digits stand for one. -/
def percentOctets : List Char → List UInt8
  | [] => []
  | '%' :: a :: b :: rest =>
      match hexDigit? a, hexDigit? b with
      | some x, some y => UInt8.ofNat (16 * x + y) :: percentOctets rest
      | _, _ => UInt8.ofNat '%'.toNat :: percentOctets (a :: b :: rest)
  | c :: rest => UInt8.ofNat c.toNat :: percentOctets rest

/-- Decodes each run of ASCII characters and keeps the others; `run` holds the current run in
reverse. -/
def percentDecodeFrom
    (run : List Char) :
    List Char → List Char
  | [] => Text.decodeLenient (percentOctets run.reverse)
  | c :: rest =>
      if c.toNat < 0x80 then
        percentDecodeFrom (c :: run) rest
      else
        Text.decodeLenient (percentOctets run.reverse) ++ c :: percentDecodeFrom [] rest

/-- Decodes a part of a query: `+` is a space, and percent signs are resolved. -/
def decodeQuery (cs : List Char) : List Char :=
  percentDecodeFrom [] (cs.map fun c => if c = '+' then ' ' else c)

/-- Whether the key of a query pair means the version. -/
def isVersionPair (pair : List Char) : Bool :=
  decodeQuery (Text.cutFirst '=' pair).1 = ['v', 'e', 'r']

/-- The decoded value of a query pair. -/
def pairValue (pair : List Char) : List Char :=
  decodeQuery ((Text.cutFirst '=' pair).2.getD [])

/-- The pairs of a query as they are written. -/
def queryPairs (query : String) : List (List Char) :=
  Text.pieces '&' query.toList

/-- The pairs of a query that stay in the address: those that are not empty and do not mean
the version. -/
def otherPairs (query : String) : List (List Char) :=
  (queryPairs query).filter fun pair => !isVersionPair pair && !pair.isEmpty

/-- The first version that is not empty. -/
def versionOf? (query : String) : Option String :=
  (((queryPairs query).filter isVersionPair).map pairValue).find? (!·.isEmpty)
    |>.map String.ofList

/-- An address without its version parameters, and the version. -/
def splitVersion (s : String) : Except AddressError (String × Option String) := do
  let a ← Address.parse s
  let query := String.ofList (Text.joinPieces '&' (otherPairs a.query))
  return (Address.text { a with query }, versionOf? a.query)

end Url
end PageScripts
