import JsonExpr.Text.Numeral

/-!
Addresses of hosts in numbers.
-/

namespace JsonExpr.Uri

/-- The pieces of a text between separators. -/
def pieces (separator : Char) : List Char → List (List Char)
  | [] => [[]]
  | c :: rest =>
      if c = separator then [] :: pieces separator rest
      else
        match pieces separator rest with
        | piece :: more => (c :: piece) :: more
        | [] => [[c]]

/-- A number up to 255 without leading zeros. -/
def isOctet (text : List Char) : Bool :=
  ! text.isEmpty && text.all Char.isDigit && text.length ≤ 3 &&
    Text.numeralValue 10 text ≤ 255 && (text.length = 1 || text.head? != some '0')

def isVersionFour (text : List Char) : Bool :=
  let octets := pieces '.' text
  octets.length = 4 && octets.all isOctet

/-- One to four hexadecimal digits. -/
def isHextet (text : List Char) : Bool :=
  ! text.isEmpty && text.length ≤ 4 && text.all Text.isHexDigit

/-- The parts of an address, where one of version four at the end counts as two. -/
def hextets? (parts : List (List Char)) : Option (List (List Char)) :=
  match parts.getLast? with
  | some last =>
      if ! last.contains '.' then some parts
      else if isVersionFour last then some (parts.dropLast ++ [['0'], ['0']])
      else none
  | none => none

/-- The number of parts on one side of a double colon. An empty part stands for no part where it
is alone. -/
def sideLength? : List (List Char) → Option Nat
  | [[]] => some 0
  | parts => if parts.all isHextet then some parts.length else none

/-- Eight parts, or fewer with a double colon for the others. -/
def areHextets (parts : List (List Char)) : Bool :=
  let inner := parts.tail.dropLast
  if 9 < parts.length || 1 < inner.countP List.isEmpty then false
  else
    match inner.findIdx? List.isEmpty with
    | none => parts.length = 8 && parts.all isHextet
    | some index =>
        match sideLength? (parts.take (index + 1)), sideLength? (parts.drop (index + 2)) with
        | some before, some after => before + after ≤ 7
        | _, _ => false

/-- An address of version six, with the zone after a percent sign if there is one. -/
def isVersionSix (text : List Char) : Bool :=
  let parts := pieces ':' (text.takeWhile (· != '%'))
  let zoneOk := match text.dropWhile (· != '%') with
    | [] => true
    | _ :: zone => ! zone.isEmpty && ! zone.contains '%'
  zoneOk && 3 ≤ parts.length &&
    match hextets? parts with
    | some parts => areHextets parts
    | none => false

/-- An address of a later version: its number after a letter, a dot and the rest. -/
def isLaterVersion : List Char → Bool
  | 'v' :: text =>
      match text.takeWhile Text.isHexDigit, text.dropWhile Text.isHexDigit with
      | _ :: _, '.' :: _ :: _ => true
      | _, _ => false
  | _ => false

end JsonExpr.Uri
