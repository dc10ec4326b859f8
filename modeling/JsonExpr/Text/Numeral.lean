/-!
Numbers in text. Hexadecimal numerals are written with a fixed width and in lower case, and read in
either case. In decimal integers the digits of every script count, a single underscore may stand
between two digits, a sign may stand in front, and blanks may stand around.
-/

namespace JsonExpr.Text

/-- The white space of every script, and the control characters that separate records. -/
def blanks : List Nat :=
  [0x9, 0xa, 0xb, 0xc, 0xd, 0x1c, 0x1d, 0x1e, 0x1f, 0x20, 0x85, 0xa0, 0x1680, 0x2000, 0x2001,
    0x2002, 0x2003, 0x2004, 0x2005, 0x2006, 0x2007, 0x2008, 0x2009, 0x200a, 0x2028, 0x2029,
    0x202f, 0x205f, 0x3000]

def isBlank (c : Char) : Bool :=
  blanks.contains c.toNat

/-- The text without the blanks at either end. -/
def trimmed (text : String) : List Char :=
  ((text.toList.dropWhile isBlank).reverse.dropWhile isBlank).reverse

def hexDigit (n : Nat) : Char :=
  if n < 10 then Char.ofNat ('0'.toNat + n) else Char.ofNat ('a'.toNat + (n - 10))

/-- The last `width` hexadecimal digits of a natural. -/
def hexadecimal : (width : Nat) → Nat → List Char
  | 0, _ => []
  | width + 1, n => hexadecimal width (n / 16) ++ [hexDigit (n % 16)]

def isHexDigit (c : Char) : Bool :=
  c.isDigit || ('a' ≤ c && c ≤ 'f') || ('A' ≤ c && c ≤ 'F')

def hexDigitValue (c : Char) : Nat :=
  if c.isDigit then c.toNat - '0'.toNat
  else if 'a' ≤ c then c.toNat - 'a'.toNat + 10
  else c.toNat - 'A'.toNat + 10

/-- The value of digits in a base up to sixteen. -/
def numeralValue (base : Nat) (digits : List Char) : Nat :=
  digits.foldl (fun value c => base * value + hexDigitValue c) 0

/-- The zero of each run of ten decimal digits in Unicode 14. -/
def zeroDigits : List Nat :=
  [0x30, 0x660, 0x6f0, 0x7c0, 0x966, 0x9e6, 0xa66, 0xae6, 0xb66, 0xbe6, 0xc66, 0xce6, 0xd66, 0xde6,
    0xe50, 0xed0, 0xf20, 0x1040, 0x1090, 0x17e0, 0x1810, 0x1946, 0x19d0, 0x1a80, 0x1a90, 0x1b50,
    0x1bb0, 0x1c40, 0x1c50, 0xa620, 0xa8d0, 0xa900, 0xa9d0, 0xa9f0, 0xaa50, 0xabf0, 0xff10, 0x104a0,
    0x10d30, 0x11066, 0x110f0, 0x11136, 0x111d0, 0x112f0, 0x11450, 0x114d0, 0x11650, 0x116c0,
    0x11730, 0x118e0, 0x11950, 0x11c50, 0x11d50, 0x11da0, 0x16a60, 0x16ac0, 0x16b50, 0x1d7ce,
    0x1d7d8, 0x1d7e2, 0x1d7ec, 0x1d7f6, 0x1e140, 0x1e2f0, 0x1e950, 0x1fbf0]

def digitValue? (c : Char) : Option Nat :=
  zeroDigits.findSome? fun first =>
    if first ≤ c.toNat ∧ c.toNat < first + 10 then some (c.toNat - first) else none

/-- The value of a sequence of decimal digits. -/
def ofDigits (digits : List Nat) : Nat :=
  digits.foldl (fun value digit => 10 * value + digit) 0

/-- Blanks that may stand around a numeral: all but the separators of records. -/
def isSpacing (c : Char) : Bool :=
  isBlank c && ! (0x1c ≤ c.toNat && c.toNat ≤ 0x1f)

/-- The digits at the front of a text and the rest, after the digits `done` in reverse. There are
none where an underscore has no digit after it. -/
def digitsAfter? (done : List Nat) : List Char → Option (List Nat × List Char)
  | '_' :: c :: rest =>
      match digitValue? c with
      | some digit => digitsAfter? (digit :: done) rest
      | none => none
  | ['_'] => none
  | c :: rest =>
      match digitValue? c with
      | some digit => digitsAfter? (digit :: done) rest
      | none => some (done.reverse, c :: rest)
  | [] => some (done.reverse, [])

/-- The digits at the front of a text, of which there is at least one, and the rest. -/
def digits? : List Char → Option (List Nat × List Char)
  | c :: rest =>
      match digitValue? c with
      | some digit => digitsAfter? [digit] rest
      | none => none
  | [] => none

inductive NumeralFault where
  | invalid
  | tooLong (digits : Nat)
  deriving DecidableEq

/-- A natural number with at most `limit` digits. The digits are counted before what follows them
is looked at. -/
def natural (limit : Nat) (text : List Char) : Except NumeralFault Nat :=
  match digits? text with
  | none => .error .invalid
  | some (digits, rest) =>
      if limit < digits.length then .error (.tooLong digits.length)
      else if rest.all isSpacing then .ok (ofDigits digits)
      else .error .invalid

def integer (limit : Nat) (text : List Char) : Except NumeralFault Int :=
  match text.dropWhile isSpacing with
  | '+' :: rest => (natural limit rest).map Int.ofNat
  | '-' :: rest => (natural limit rest).map fun n => -(n : Int)
  | rest => (natural limit rest).map Int.ofNat

end JsonExpr.Text
