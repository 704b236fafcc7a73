import PageScripts.Text.Pieces

/-!
# Numeric hosts in brackets

A host in brackets is an IPv6 address: eight groups of up to four hexadecimal digits, of which
one run of zero groups may be left out as `::`, and the last two of which may be written as an
IPv4 address; a zone may follow after a percent sign.
-/

namespace PageScripts
namespace Url

/-- Whether a character is a hexadecimal digit. -/
def isHex (c : Char) : Bool :=
  ('0' ≤ c && c ≤ '9') || ('a' ≤ c && c ≤ 'f') || ('A' ≤ c && c ≤ 'F')

/-- One to four hexadecimal digits. -/
def isGroup (cs : List Char) : Bool :=
  !cs.isEmpty && cs.length ≤ 4 && cs.all isHex

/-- A number from 0 to 255 without leading zeros. -/
def isOctet (cs : List Char) : Bool :=
  !cs.isEmpty && cs.length ≤ 3 && cs.all (fun c => '0' ≤ c && c ≤ '9')
    && (cs.length == 1 || cs.head? != some '0')
    && cs.foldl (fun n c => 10 * n + (c.toNat - 0x30)) 0 ≤ 255

/-- Four octets between points. -/
def isIpv4 (cs : List Char) : Bool :=
  let octets := Text.pieces '.' cs
  octets.length == 4 && octets.all isOctet

/-- The groups of an address, an IPv4 ending counting as two. -/
def groupsOf? (cs : List Char) : Option (List (List Char)) :=
  let parts := Text.pieces ':' cs
  match parts.getLast? with
  | none => none
  | some last =>
      if parts.length < 3 then
        none
      else if last.contains '.' then
        if isIpv4 last then some (parts.dropLast ++ [['0'], ['0']]) else none
      else
        some parts

/-- Whether the groups make an address: `::` once at most, and eight groups in all. -/
def groupsFit (parts : List (List Char)) : Bool :=
  let inner := (parts.drop 1).dropLast
  let firstEmpty := (parts.head?.map List.isEmpty).getD false
  let lastEmpty := (parts.getLast?.map List.isEmpty).getD false
  if 9 < parts.length then
    false
  else
    match (inner.filter List.isEmpty).length with
    | 0 => parts.length == 8 && parts.all isGroup
    | 1 =>
        let index := inner.findIdx List.isEmpty + 1
        let high := parts.take index
        let low := parts.drop (index + 1)
        let high := if firstEmpty then high.drop 1 else high
        let low := if lastEmpty then low.dropLast else low
        (!firstEmpty || high.isEmpty) && (!lastEmpty || low.isEmpty)
          && high.length + low.length < 8 && high.all isGroup && low.all isGroup
    | _ => false

/-- Whether a text is an IPv6 address, with or without a zone. -/
def isIpv6 (cs : List Char) : Bool :=
  let (address, zone) := Text.cutFirst '%' cs
  let zoneFits :=
    match zone with
    | none => true
    | some z => !z.isEmpty && !z.contains '%'
  zoneFits && !cs.contains '/' &&
    match groupsOf? address with
    | none => false
    | some parts => groupsFit parts

/-- An address form that is announced by its version: `v`, hexadecimal digits, a point and
anything but a line break. -/
def isFutureIp (cs : List Char) : Bool :=
  match cs with
  | 'v' :: rest =>
      let version := rest.takeWhile isHex
      match rest.drop version.length with
      | '.' :: tail => !version.isEmpty && !tail.isEmpty && !tail.contains '\n'
      | _ => false
  | _ => false

/-- Whether brackets may hold the text. -/
def isBracketedHost (cs : List Char) : Bool :=
  if cs.head? = some 'v' then isFutureIp cs else isIpv6 cs

end Url
end PageScripts
