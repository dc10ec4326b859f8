import JsonExpr.Text.CharacterName.Aliases
import JsonExpr.Text.CharacterName.From0000
import JsonExpr.Text.CharacterName.From0900
import JsonExpr.Text.CharacterName.From1400
import JsonExpr.Text.CharacterName.From2500
import JsonExpr.Text.CharacterName.FromA000
import JsonExpr.Text.CharacterName.From10000
import JsonExpr.Text.CharacterName.From12000
import JsonExpr.Text.CharacterName.From16000
import JsonExpr.Text.CharacterName.From1D000
import JsonExpr.Text.CharacterName.From1F000
import JsonExpr.Text.Numeral
import JsonExpr.Text.Printable

/-!
Characters by their names in Unicode 14.

The names stand in tables, which are written in lines. In a table an at sign and a code begin a
run of characters that follow each other, and a small letter begins the name of each. The letter
says how many parts of the name before it are kept, from none for the first letter of the alphabet
on; a part ends with a blank or a hyphen. After the parts that are kept stand those of the name
itself. A tilde at the end says that the rest of the name before it follows.

The names of syllables are made from those of their letters, and the names of ideographs from their
codes.
-/

namespace JsonExpr.Text

namespace CharacterName

/-- The parts of a name, each with the blank or the hyphen at its end. -/
def parts : List Char → List (List Char)
  | [] => []
  | c :: rest =>
      if c = ' ' || c = '-' then [c] :: parts rest
      else
        match parts rest with
        | part :: more => (c :: part) :: more
        | [] => [[c]]

/-- What has been read of a table. -/
structure Reading where
  /-- The code of the character whose name is being read. -/
  code : Nat := 0
  /-- Whether that code is being read. -/
  inCode : Bool := false
  /-- The parts of the name before. -/
  before : List (List Char) := []
  /-- How many parts are kept of it, once a name is being read. -/
  kept : Option Nat := none
  /-- What has been read of the name, in reverse. -/
  own : List Char := []
  /-- Whether the rest of the name before follows. -/
  continues : Bool := false
  /-- The code of the character that is looked for. -/
  found : Option Nat := none

namespace Reading

/-- The name that has been read. -/
def name (reading : Reading) (kept : Nat) : List (List Char) :=
  let own := parts reading.own.reverse
  reading.before.take kept ++ own ++
    (if reading.continues then reading.before.drop (kept + own.length) else [])

/-- Ends the name that is being read, and notes its code if it is the one looked for. -/
def finish (target : List (List Char)) (reading : Reading) : Reading :=
  match reading.kept with
  | none => reading
  | some kept =>
      let name := reading.name kept
      { code := reading.code + 1, before := name
        found := if name = target then some reading.code else reading.found }

/-- Reads one character of a table. -/
def step (target : List (List Char)) (reading : Reading) (c : Char) : Reading :=
  if c = '@' then { reading.finish target with code := 0, inCode := true }
  else if c.isLower then
    { reading.finish target with inCode := false, kept := some (c.toNat - 'a'.toNat) }
  else if c = '~' then { reading with continues := true }
  else if reading.inCode then { reading with code := 16 * reading.code + hexDigitValue c }
  else { reading with own := c :: reading.own }

end Reading

/-- The code of the character with a name in a table. -/
def find? (target : List (List Char)) (table : List String) : Option Nat :=
  let readLine (reading : Reading) (line : String) : Reading :=
    line.foldl (Reading.step target) reading
  ((table.foldl readLine {}).finish target).found

/-- The names of leading consonants. -/
def leads : List String :=
  ["G", "GG", "N", "D", "DD", "R", "M", "B", "BB", "S", "SS", "", "J", "JJ", "C", "K", "T", "P",
    "H"]

/-- The names of vowels. -/
def vowels : List String :=
  ["A", "AE", "YA", "YAE", "EO", "E", "YEO", "YE", "O", "WA", "WAE", "OE", "YO", "U", "WEO", "WE",
    "WI", "YU", "EU", "YI", "I"]

/-- The names of trailing consonants. -/
def trails : List String :=
  ["", "G", "GG", "GS", "N", "NJ", "NH", "D", "L", "LG", "LM", "LB", "LS", "LT", "LP", "LH", "M",
    "B", "BS", "S", "SS", "NG", "J", "C", "K", "T", "P", "H"]

/-- The longest of some names with which a text begins, by its index, and the rest. -/
def longest? (names : List String) (text : List Char) : Option (Nat × List Char) :=
  (names.zipIdx.foldl
    (fun best (name, index) =>
      if name.toList.isPrefixOf text && best.all (fun (length, _) => length < name.length) then
        some (name.length, index)
      else best)
    none).map fun (length, index) => (index, text.drop length)

/-- The syllable made of the letters in a text. -/
def syllable? (text : List Char) : Option Nat := do
  let (lead, rest) ← longest? leads text
  let (vowel, rest) ← longest? vowels rest
  let (trail, rest) ← longest? trails rest
  if rest.isEmpty then some (0xac00 + (lead * vowels.length + vowel) * trails.length + trail)
  else none

/-- The ideographs that are named by their codes alone. -/
def ideographs : Ranges :=
  [(0x3400, 0x4dbf), (0x4e00, 0x9fff), (0x20000, 0x2a6df), (0x2a700, 0x2b738), (0x2b740, 0x2b81d),
    (0x2b820, 0x2cea1), (0x2ceb0, 0x2ebe0), (0x30000, 0x3134a)]

/-- An ideograph by four or five digits of its code. -/
def ideograph? (digits : List Char) : Option Nat :=
  let code := numeralValue 16 digits
  if (digits.length = 4 || digits.length = 5) && digits.all isHexDigit &&
      ! digits.any Char.isLower && ideographs.holds code then some code
  else none

/-- Families of characters that are named by their codes. -/
def families : List (String × Ranges) :=
  [("CJK COMPATIBILITY IDEOGRAPH-", [(0xf900, 0xfa6d), (0xfa70, 0xfad9), (0x2f800, 0x2fa1d)]),
    ("KHITAN SMALL SCRIPT CHARACTER-", [(0x18b00, 0x18cd5)]),
    ("NUSHU CHARACTER-", [(0x1b170, 0x1b2fb)])]

/-- The rest of a text that begins with another. -/
def after? (beginning : String) (text : List Char) : Option (List Char) :=
  if beginning.toList.isPrefixOf text then some (text.drop beginning.length) else none

/-- A member of a family by the digits of its code. -/
def member? (name : List Char) : Option Nat :=
  families.findSome? fun (family, codes) => do
    let digits ← after? family name
    let code := numeralValue 16 digits
    if digits.all isHexDigit && digits.head? != some '0' && codes.holds code then some code
    else none

/-- The tables, with those for the most common characters first. -/
def tables : List (List String) :=
  [from0000, aliases, from0900, from1400, from2500, fromA000, from10000, from12000, from16000,
    from1D000, from1F000]

end CharacterName

/-- The code of the character with a name. Only in the names of syllables and of most ideographs
do capital letters matter. -/
def characterNamed? (name : List Char) : Option Nat :=
  match CharacterName.after? "HANGUL SYLLABLE " name with
  | some letters => CharacterName.syllable? letters
  | none =>
      match CharacterName.after? "CJK UNIFIED IDEOGRAPH-" name with
      | some digits => CharacterName.ideograph? digits
      | none =>
          let name := name.map Char.toUpper
          let target := CharacterName.parts name
          (CharacterName.member? name).or
            (CharacterName.tables.findSome? (CharacterName.find? target))

end JsonExpr.Text
