import JsonExpr.Error
import JsonExpr.Text.Numeral

/-!
Limits given as text, for instance by the variables of a process. A limit that is not given, or
is blank, has a default.
-/

namespace JsonExpr

structure Settings where
  callDepth : Option String := none
  expansionDepth : Option String := none

namespace Settings

def callDepthName : String := "JEXL_MAX_CALL_DEPTH"

def expansionDepthName : String := "JEXL_MAX_EXPANSION_DEPTH"

def defaultDepth : Int := 100

/-- A positive integer, or the default where the text is absent or blank. -/
def limit (name : String) : Option String → Except Error Int
  | none => .ok defaultDepth
  | some text =>
      match Text.trimmed text with
      | [] => .ok defaultDepth
      | trimmed =>
          match Text.integer Number.digitLimit trimmed with
          | .error .invalid => .error (.invalidInteger (String.ofList trimmed))
          | .error (.tooLong digits) => .error (.numeralTooLong digits)
          | .ok value => if value < 1 then .error (.notPositive name value) else .ok value

def maxCallDepth (settings : Settings) : Except Error Int :=
  limit callDepthName settings.callDepth

def maxExpansionDepth (settings : Settings) : Except Error Int :=
  limit expansionDepthName settings.expansionDepth

end Settings

end JsonExpr
