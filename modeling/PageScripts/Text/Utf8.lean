/-!
# UTF-8

A sequence of octets is read character by character.  Where no character can be read, the
longest beginning of one is an error of its own: strict reading gives up there, and lenient
reading puts a replacement character.
-/

namespace PageScripts
namespace Text

/-- The character put in the place of octets that are none. -/
def replacement : Char := Char.ofNat 0xFFFD

/-- How a character goes on after its first octet: the number of further octets, the payload
of the first, and the bounds of the second. -/
structure Lead where
  more : Nat
  payload : Nat
  low : Nat
  high : Nat

/-- What the first octet of a character of several octets announces. -/
def lead? (octet : UInt8) : Option Lead :=
  let n := octet.toNat
  if 0xC2 ≤ n ∧ n ≤ 0xDF then
    some ⟨1, n - 0xC0, 0x80, 0xBF⟩
  else if n = 0xE0 then
    some ⟨2, 0, 0xA0, 0xBF⟩
  else if n = 0xED then
    some ⟨2, 0xD, 0x80, 0x9F⟩
  else if 0xE1 ≤ n ∧ n ≤ 0xEF then
    some ⟨2, n - 0xE0, 0x80, 0xBF⟩
  else if n = 0xF0 then
    some ⟨3, 0, 0x90, 0xBF⟩
  else if 0xF1 ≤ n ∧ n ≤ 0xF3 then
    some ⟨3, n - 0xF0, 0x80, 0xBF⟩
  else if n = 0xF4 then
    some ⟨3, 4, 0x80, 0x8F⟩
  else
    none

/-- Reads the further octets of a character: the code point, or nothing, and how many octets
fit. -/
def continuation
    (low high : Nat) :
    Nat → Nat → List UInt8 → Option Nat × Nat
  | 0, payload, _ => (some payload, 0)
  | _ + 1, _, [] => (none, 0)
  | more + 1, payload, octet :: rest =>
      if low ≤ octet.toNat ∧ octet.toNat ≤ high then
        let (code, taken) :=
          continuation 0x80 0xBF more (64 * payload + (octet.toNat - 0x80)) rest
        (code, taken + 1)
      else
        (none, 0)

/-- The first character, or nothing where there is an error, and how many octets after the
first belong to it. -/
def firstChar
    (octet : UInt8)
    (rest : List UInt8) :
    Option Char × Nat :=
  if octet.toNat < 0x80 then
    (some (Char.ofNat octet.toNat), 0)
  else
    match lead? octet with
    | none => (none, 0)
    | some l =>
        let (code, taken) := continuation l.low l.high l.more l.payload rest
        (code.map Char.ofNat, taken)

/-- The characters of a sequence of octets, with nothing in the place of each error. -/
def decodeOctets : List UInt8 → List (Option Char)
  | [] => []
  | octet :: rest =>
      let (c, taken) := firstChar octet rest
      c :: decodeOctets (rest.drop taken)
termination_by octets => octets.length
decreasing_by
  simp only [List.length_drop, List.length_cons]
  omega

/-- Reads octets as UTF-8 if there is no error in them. -/
def decodeStrict (octets : List UInt8) : Option (List Char) :=
  (decodeOctets octets).mapM id

/-- Reads octets as UTF-8, with a replacement character for each error. -/
def decodeLenient (octets : List UInt8) : List Char :=
  (decodeOctets octets).map fun c => c.getD replacement

/-- Lines end in one line feed, however they were ended. -/
def unifyLineEnds : List Char → List Char
  | [] => []
  | '\r' :: '\n' :: rest => '\n' :: unifyLineEnds rest
  | '\r' :: rest => '\n' :: unifyLineEnds rest
  | c :: rest => c :: unifyLineEnds rest

end Text
end PageScripts
