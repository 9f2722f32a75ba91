import EmailComposer.Text.CharClass

namespace EmailComposer.Url

/-!
# Numeric host addresses

The addresses that may stand between square brackets in the host of a URL: eight
groups of hexadecimal digits with at most one run of groups left out, where the
last two groups may be written as four decimal numbers.
-/

open EmailComposer.Text

/-- A decimal number up to 255 without leading zeros. -/
def isOctet (text : Text) : Bool :=
  text.length ≤ 3 && !text.isEmpty && text.all isAsciiDigit &&
    (text = "0" || text.head? != some '0') &&
    text.foldl (fun value char => value * 10 + hexValue char) 0 ≤ 255

/-- Four octets with points between them. -/
def isDottedQuad (text : Text) : Bool :=
  let octets := fields '.' text
  octets.length == 4 && octets.all isOctet

/-- One to four hexadecimal digits. -/
def isHexGroup (text : Text) : Bool :=
  !text.isEmpty && text.length ≤ 4 && text.all isHexDigit

/-- The positions of the empty fields that have a field on both sides. -/
def innerGaps (groups : List Text) : List Nat :=
  (List.range groups.length).filter fun index =>
    0 < index && index + 1 < groups.length && groups[index]? == some []

/-- The fields between colons are the groups of an address. An empty field stands
for the groups left out; at either end it is allowed only next to that one. -/
def areGroups (groups : List Text) : Bool :=
  match innerGaps groups with
  | [] => groups.length == 8 && groups.all isHexGroup
  | [gap] =>
      let leading := groups.take gap
      let trailing := groups.drop (gap + 1)
      let leading := if leading = [[]] then [] else leading
      let trailing := if trailing = [[]] then [] else trailing
      leading.length + trailing.length < 8 &&
        leading.all isHexGroup && trailing.all isHexGroup
  | _ => false

/-- A zone, if a percent sign starts one, is not empty and has no percent sign. -/
def isZone : Option Text → Bool
  | none => true
  | some zone => !zone.isEmpty && !zone.contains '%'

/-- A colon-separated address, with or without a zone. -/
def isColonAddress (text : Text) : Bool :=
  let (address, zone) := cut '%' text
  let groups := fields ':' address
  let groups :=
    match groups.getLast? with
    | some ending =>
        if ending.contains '.' then
          if isDottedQuad ending then
            groups.dropLast ++ [['0'], ['0']]
          else
            []
        else
          groups
    | none => groups
  isZone zone && !text.contains '/' && 3 ≤ (fields ':' address).length &&
    groups.length ≤ 9 && areGroups groups

/-- An address of a future version: a `v`, hexadecimal digits, a point and more. -/
def isFutureAddress : Text → Bool
  | 'v' :: rest =>
      match rest.takeWhile isHexDigit, rest.dropWhile isHexDigit with
      | _ :: _, '.' :: ending => !ending.isEmpty && !ending.contains '\n'
      | _, _ => false
  | _ => false

/-- What may stand between the square brackets of a host. -/
def isBracketedHost (text : Text) : Bool :=
  if startsWith "v" text then
    isFutureAddress text
  else
    isColonAddress text

end EmailComposer.Url
