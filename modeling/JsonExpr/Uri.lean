import JsonExpr.Uri.Address

/-!
Identifiers of resources, taken apart into their components. A component that is empty counts as
absent.
-/

namespace JsonExpr

structure Uri where
  scheme : String
  authority : String
  path : String
  query : String
  fragment : String
  deriving DecidableEq

namespace Uri

/-- What is wrong with the authority of an identifier. -/
inductive Flaw where
  /-- A bracket has no counterpart. -/
  | loneBracket
  | notAddress (host : String)
  /-- An address of version four stands in brackets. -/
  | versionFourInBrackets
  | badLaterVersion
  /-- It contains a character that stands for one that separates components. -/
  | disguisedSeparator (authority : String)
  deriving DecidableEq

/-- Characters whose compatibility form contains a slash, a question mark, a number sign, an at
sign or a colon. -/
def disguises : List Nat :=
  [0x2047, 0x2048, 0x2049, 0x2100, 0x2101, 0x2105, 0x2106, 0x2a74, 0xfe13, 0xfe16, 0xfe55, 0xfe56,
    0xfe5f, 0xfe6b, 0xff03, 0xff0f, 0xff1a, 0xff1f, 0xff20]

def isSchemeChar (c : Char) : Bool :=
  c.isAlphanum || c == '+' || c == '-' || c == '.'

/-- The scheme in small letters and the rest. -/
def splitScheme (text : List Char) : List Char × List Char :=
  let scheme := text.takeWhile isSchemeChar
  match scheme.head?, text.drop scheme.length with
  | some first, ':' :: rest => if first.isAlpha then (scheme.map Char.toLower, rest) else ([], text)
  | _, _ => ([], text)

def endsAuthority (c : Char) : Bool :=
  c == '/' || c == '?' || c == '#'

/-- The authority after two slashes and the rest. -/
def splitAuthority : List Char → List Char × List Char
  | '/' :: '/' :: rest =>
      (rest.takeWhile (! endsAuthority ·), rest.dropWhile (! endsAuthority ·))
  | text => ([], text)

/-- The text in front of the first separator and the text after it. -/
def splitAt (separator : Char) (text : List Char) : List Char × List Char :=
  (text.takeWhile (· != separator), (text.dropWhile (· != separator)).tail)

/-- The host in brackets is an address of version six or later. -/
def checkBracketed (host : List Char) : Except Flaw Unit :=
  if host.head? = some 'v' then
    if isLaterVersion host then .ok () else .error .badLaterVersion
  else if isVersionFour host then .error .versionFourInBrackets
  else if isVersionSix host then .ok ()
  else .error (.notAddress (String.ofList host))

def checkAuthority (authority : List Char) : Except Flaw Unit := do
  if authority.contains '[' != authority.contains ']' then throw .loneBracket
  if authority.contains '[' then
    checkBracketed ((splitAt ']' (splitAt '[' authority).2).1)
  if authority.any fun c => disguises.contains c.toNat then
    throw (.disguisedSeparator (String.ofList authority))

/-- Takes a text apart. Controls and spaces in front and the ends of lines are left out. -/
def ofText (text : String) : Except Flaw Uri := do
  let text := text.toList.dropWhile (·.toNat ≤ 0x20)
  let text := text.filter fun c => ! ['\t', '\r', '\n'].contains c
  let (scheme, text) := splitScheme text
  let (authority, text) := splitAuthority text
  checkAuthority authority
  let (text, fragment) := splitAt '#' text
  let (path, query) := splitAt '?' text
  return { scheme := String.ofList scheme, authority := String.ofList authority
           path := String.ofList path, query := String.ofList query
           fragment := String.ofList fragment }

end Uri

end JsonExpr
