import JsonExpr.Number.Arithmetic
import JsonExpr.Schema.Rule
import JsonExpr.Violation

/-!
What can go wrong, by cause, and the wording of each cause.
-/

namespace JsonExpr

/-- What kind of name a failed lookup was for. -/
inductive NameKind where
  | name
  | variable
  | function
  deriving DecidableEq

def NameKind.text : NameKind → String
  | .name => "name"
  | .variable => "variable"
  | .function => "function"

/-- Uses of a form where it is not allowed. -/
inductive Misuse where
  | notFunction (value : Json)
  | notEvaluable (value : Json)
  | notMacro (target : String)
  | importedMacro (symbol source : String)
  | circularImport (source : String)
  | stated (text : String)

def Misuse.text : Misuse → String
  | .notFunction value => s!"Cannot apply non-function {value.quoted}"
  | .notEvaluable value => s!"Cannot evaluate {value.quoted}"
  | .notMacro target =>
      s!"'{target}' is not a macro; record-style arguments are only accepted by macros"
  | .importedMacro symbol source => s!"Cannot import macro '{symbol}' from module '{source}'"
  | .circularImport source => s!"Circular import of module '{source}'"
  | .stated text => text

/-- Arguments that a builtin does not accept, shown by their text. -/
inductive Mismatch where
  | notNumbers (operation left right : String)
  | divideByZero
  | notPair (argument : String)
  | stated (text : String)
  deriving DecidableEq

def Mismatch.text : Mismatch → String
  | .notNumbers operation left right => s!"{operation} expects two numbers, got {left} and {right}"
  | .divideByZero => "divide by zero"
  | .notPair argument => s!"object expects [string, value] pairs, got {argument}"
  | .stated text => text

inductive ImportFailure where
  | unknownModule (source : String)
  | unknownSymbol (source symbol : String)
  | stated (text : String)
  deriving DecidableEq

def ImportFailure.text : ImportFailure → String
  | .unknownModule source => s!"Module '{source}' not found"
  | .unknownSymbol source symbol => s!"Module '{source}' has no export '{symbol}'"
  | .stated text => text

inductive Error where
  | violation (path : String) (reason : Reason) (value : Json)
  | invalidType (typeName : String) (source : Option String) (reason : String)
  | unbound (kind : NameKind) (name : String)
  | arity (name : String) (expected actual : Int)
  | macroNotExpanded (name : String)
  | misuse (cause : Misuse)
  | mismatch (cause : Mismatch)
  /-- A limit on nesting was reached; the limit is absent when it is that of the stack. -/
  | depthExceeded (limit : Option Int) (what : String)
  | importFailure (cause : ImportFailure)
  | other (text : String)
  | arithmetic (fault : Number.Fault)
  /-- An integer has too many digits to be written. -/
  | integerTooLong
  | invalidInteger (text : String)
  /-- A numeral has too many digits to be read. -/
  | numeralTooLong (digits : Nat)
  | notPositive (setting : String) (value : Int)
  /-- A value that was never read stands where an expression tree is needed. -/
  | notExpressionNode (value : Json)
  | notMapping (typeName : String)
  | pattern (why : Schema.Pattern.Refusal)
  | identifier (flaw : Uri.Flaw)
  /-- The stack given to a computation was used up. -/
  | stackExhausted

namespace Error

def ofViolation (base : String) (v : Violation) : Error :=
  .violation (v.path base) v.reason v.value

/-- The error that a failing check of a schema amounts to. -/
def ofFailure : Schema.Failure → Error
  | .pattern .tooDeep => .stackExhausted
  | .pattern (.countTooLong digits) => .numeralTooLong digits
  | .pattern why => .pattern why
  | .identifier flaw => .identifier flaw

def faultText : Number.Fault → String
  | .conversion => "int too large to convert to float"
  | .quotient => "integer division result too large for a float"

def digitLimitText : String :=
  s!"Exceeds the limit ({Number.digitLimit} digits) for integer string conversion"

def digitLimitAdvice : String :=
  "use sys.set_int_max_str_digits() to increase the limit"

def tooManyDigits (digits : Nat) : String :=
  s!"{digitLimitText}: value has {digits} digits; {digitLimitAdvice}"

def stackText : String := "maximum recursion depth exceeded"

def refusalText : Schema.Pattern.Refusal → String
  | .repetitionTooLarge => "the repetition number is too large"
  | .countTooLong digits => tooManyDigits digits
  | .codeTooLarge => "Python int too large to convert to C int"
  | .flagsIncompatible => "ASCII and UNICODE flags are incompatible"
  | .tooDeep => stackText

def identifierText : Uri.Flaw → String
  | .loneBracket => "Invalid IPv6 URL"
  | .notAddress host => s!"{Text.quoted host} does not appear to be an IPv4 or IPv6 address"
  | .versionFourInBrackets => "An IPv4 address cannot be in brackets"
  | .badLaterVersion => "IPvFuture address is invalid"
  | .disguisedSeparator authority =>
      s!"netloc '{authority}' contains invalid characters under NFKC normalization"

/-- The quoted text, cut off after two hundred characters. -/
def excerpt (text : String) : String :=
  String.ofList ((Text.quoted text).toList.take 200)

def message : Error → String
  | .violation path reason value => (if path = "" then "/" else path) ++ ": " ++ reason.text value
  | .invalidType typeName source reason =>
      let place := match source with
        | none => ""
        | some name => s!" in module '{name}'"
      let why := if reason = "" then "" else ": " ++ reason
      s!"Invalid JSON Schema for type '{typeName}'" ++ place ++ why
  | .unbound kind name => s!"Unbound {kind.text}: {name}"
  | .arity name expected actual => s!"'{name}' expected {expected} arguments but got {actual}"
  | .macroNotExpanded name => s!"Macro '{name}' reached the evaluator unexpanded"
  | .misuse cause => cause.text
  | .mismatch cause => cause.text
  | .depthExceeded none what => s!"Maximum {what} depth exceeded"
  | .depthExceeded (some limit) what => s!"Maximum {what} depth of {limit} exceeded"
  | .importFailure cause => cause.text
  | .other text => text
  | .arithmetic fault => faultText fault
  | .integerTooLong => s!"{digitLimitText}; {digitLimitAdvice}"
  | .numeralTooLong digits => tooManyDigits digits
  | .invalidInteger text => "invalid literal for int() with base 10: " ++ excerpt text
  | .notPositive setting value => s!"{setting} must be a positive integer, got {value}"
  | .notExpressionNode value => s!"Not an expression node: {value.quoted}"
  | .notMapping typeName => s!"'{typeName}' object has no attribute 'values'"
  | .pattern why => refusalText why
  | .identifier flaw => identifierText flaw
  | .stackExhausted => stackText

end Error

/-- The text of a value, unless an integer in it is too long to be written. -/
def Json.checkedText (value : Json) : Except Error String :=
  if value.hasText then .ok value.text else .error .integerTooLong

end JsonExpr
