import JsonExpr.Json.Text
import JsonExpr.Schema.Distinct
import JsonExpr.Schema.Pattern
import JsonExpr.Uri

/-!
Rules that a part of a schema document has to satisfy. Checking a document against a rule gives
what is found in the order in which the rule is written. The check ends with a failure if it comes
to a regular expression that cannot be looked at.
-/

namespace JsonExpr.Schema

/-- What ends the check of a schema document before it has a result. -/
inductive Failure where
  | pattern (why : Pattern.Refusal)
  /-- The version of the schema language is not given by an identifier. -/
  | identifier (flaw : Uri.Flaw)
  deriving DecidableEq

/-- The types of values that schemas speak of. -/
inductive Kind where
  | boolean
  | integer
  | number
  | string
  | array
  | object
  deriving DecidableEq

def Kind.name : Kind → String
  | .boolean => "boolean"
  | .integer => "integer"
  | .number => "number"
  | .string => "string"
  | .array => "array"
  | .object => "object"

/-- Forms that some strings have to have. -/
inductive Form where
  /-- Nothing stands after a number sign. -/
  | noFragment
  /-- A letter, and after it letters, digits and a few signs. -/
  | anchor (initials signs : List Char)

namespace Form

/-- The form as a regular expression. -/
def expression : Form → String
  | .noFragment => "^[^#]*#?$"
  | .anchor initials signs =>
      "^[A-Za-z" ++ String.ofList initials ++ "][-A-Za-z0-9" ++ String.ofList signs ++ "]*$"

def holdsOf : Form → List Char → Bool
  | .noFragment, text => (text.dropWhile (· != '#')).length ≤ 1
  | .anchor initials signs, c :: rest =>
      (c.isAlpha || initials.contains c) &&
        rest.all fun c => c.isAlphanum || c == '-' || signs.contains c
  | .anchor _ _, [] => false

/-- Whether a text has a form, where the end of a line may follow. -/
def accepts (form : Form) (text : String) : Bool :=
  form.holdsOf text.toList ||
    (text.toList.getLast? == some '\n' && form.holdsOf text.toList.dropLast)

end Form

inductive Rule where
  | ofKind (kinds : List Kind)
  /-- A number is not negative. -/
  | minimumZero
  /-- A number is positive. -/
  | aboveZero
  /-- An array has an item. -/
  | nonEmpty
  /-- No two items of an array are equal. -/
  | unique
  /-- A string is a regular expression. -/
  | pattern
  /-- A string has a form. -/
  | shaped (form : Form)
  | oneOf (names : List String)
  | eachItem (rule : Rule)
  /-- Every member of an object. -/
  | eachMember (rule : Rule)
  /-- Every name of an object is a regular expression. -/
  | patternNames
  /-- Each rule in turn. -/
  | all (rules : List Rule)
  | any (rules : List Rule)
  /-- The value is itself a schema. -/
  | schema

/-- The rules of one version of the schema language. -/
structure Draft where
  /-- What a schema may be. -/
  kinds : List Kind
  /-- The rule of each keyword, in the order in which they are checked. -/
  keywords : List (String × Rule)
  /-- Keywords that need another keyword beside them. -/
  companions : List (String × String) := []
  /-- Whether a floating-point number without fraction counts as an integer. -/
  integralFloats : Bool := true

/-- A fault at the place that `location` leads to. -/
structure Fault where
  location : List String
  message : String

def Fault.within (token : String) (fault : Fault) : Fault :=
  { fault with location := token :: fault.location }

def Fault.text (fault : Fault) : String :=
  let place := "/".intercalate fault.location
  if place = "" then fault.message else fault.message ++ " (at /" ++ place ++ ")"

namespace Draft

/-- Whether a value is of a kind; booleans are no numbers. -/
def isOfKind (draft : Draft) : Json → Kind → Bool
  | .bool _, kind => kind == .boolean
  | .num (.int _), kind => kind == .integer || kind == .number
  | .num (.float x), kind =>
      kind == .number ||
        (kind == .integer && draft.integralFloats && (Number.float x).exact.toInt?.isSome)
  | .str _, kind => kind == .string
  | .arr _, kind => kind == .array
  | .obj _, kind => kind == .object
  | .null, _ => false

end Draft

/-- What a check comes upon. -/
inductive Finding where
  | fault (found : Fault)
  | failure (cause : Failure)

namespace Finding

def within (token : String) : Finding → Finding
  | .fault found => .fault (found.within token)
  | .failure cause => .failure cause

def failure? : Finding → Option Failure
  | .fault _ => none
  | .failure cause => some cause

end Finding

def complaint (value : Json) (text : String) : Finding :=
  .fault ⟨[], value.quoted ++ " " ++ text⟩

def complainIf (bad : Bool) (value : Json) (text : String) : List Finding :=
  if bad then [complaint value text] else []

/-- What is found in a text that should be a regular expression. -/
def patternFindings (text : String) : List Finding :=
  match Pattern.check text with
  | .ok _ => []
  | .error .malformed => [complaint (.str text) "is not a 'regex'"]
  | .error (.refused why) => [.failure (.pattern why)]

/-- The findings where one of several rules has to be satisfied, from the findings of each. They
are tried in turn, and each is gone through to its end. -/
def alternativeFindings (value : Json) : List (List Finding) → List Finding
  | [] => [complaint value "is not valid under any of the given schemas"]
  | findings :: rest =>
      match findings.findSome? Finding.failure? with
      | some failure => [.failure failure]
      | none => if findings.isEmpty then [] else alternativeFindings value rest

namespace Rule

/-- The findings of a rule that does not look inside the value. -/
def ownFindings (draft : Draft) (value : Json) : Rule → List Finding
  | .ofKind kinds =>
      complainIf (! kinds.any (draft.isOfKind value)) value
        ("is not of type " ++ ", ".intercalate (kinds.map fun kind => Text.quoted kind.name))
  | .minimumZero =>
      match value with
      | .num n => complainIf (n.less (.int 0)) value "is less than the minimum of 0"
      | _ => []
  | .aboveZero =>
      match value with
      | .num n =>
          complainIf (n.less (.int 0) || n.equal (.int 0)) value
            "is less than or equal to the minimum of 0"
      | _ => []
  | .nonEmpty =>
      match value with
      | .arr items => complainIf items.isEmpty value "should be non-empty"
      | _ => []
  | .unique =>
      match value with
      | .arr items => complainIf (! allDistinct items) value "has non-unique elements"
      | _ => []
  | .pattern =>
      match value with
      | .str text => patternFindings text
      | _ => []
  | .shaped form =>
      match value with
      | .str text =>
          complainIf (! form.accepts text) value ("does not match " ++ Text.quoted form.expression)
      | _ => []
  | .oneOf names =>
      let listed := match value with
        | .str text => names.contains text
        | _ => false
      complainIf (! listed) value
        ("is not one of [" ++ ", ".intercalate (names.map Text.quoted) ++ "]")
  | .patternNames =>
      match value with
      | .obj members => members.flatMap fun (name, _) => patternFindings name
      | _ => []
  | _ => []

/-- The keywords that stand in an object without the one that they need. -/
def companionFindings (draft : Draft) (members : List (String × Json)) : List Finding :=
  draft.companions.flatMap fun (keyword, companion) =>
    if Bindings.has members keyword && ! Bindings.has members companion then
      [.fault ⟨[], Text.quoted companion ++ " is a dependency of " ++ Text.quoted keyword⟩]
    else []

theorem sizeOf_member_lt {name : String} {member : Json} {members : List (String × Json)}
    (present : (name, member) ∈ members) : sizeOf member < 1 + sizeOf members := by
  have := List.sizeOf_lt_of_mem present
  simp only [Prod.mk.sizeOf_spec] at this
  omega

/-- The findings in a value under a rule. -/
def findings (draft : Draft) (rule : Rule) (value : Json) : List Finding :=
  match rule, value with
  | .eachItem inner, .arr items =>
      items.attach.zipIdx.flatMap fun (⟨item, _⟩, index) =>
        (findings draft inner item).map (Finding.within (toString index))
  | .eachItem _, _ => []
  | .eachMember inner, .obj members =>
      members.attach.flatMap fun ⟨(name, member), present⟩ =>
        have := sizeOf_member_lt present
        (findings draft inner member).map (Finding.within name)
  | .eachMember _, _ => []
  | .all rules, value => rules.attach.flatMap fun ⟨inner, _⟩ => findings draft inner value
  | .any rules, value =>
      alternativeFindings value (rules.attach.map fun ⟨inner, _⟩ => findings draft inner value)
  | .schema, .obj members =>
      let keywordFindings := draft.keywords.flatMap fun (keyword, inner) =>
        members.attach.flatMap fun ⟨(name, member), present⟩ =>
          have := sizeOf_member_lt present
          if name = keyword then (findings draft inner member).map (Finding.within name) else []
      ownFindings draft (.obj members) (.ofKind draft.kinds) ++ keywordFindings ++
        companionFindings draft members
  | .schema, value => ownFindings draft value (.ofKind draft.kinds)
  | rule, value => ownFindings draft value rule
termination_by (sizeOf value, sizeOf rule)

/-- The first fault of a value under a rule, unless the check fails before it comes to one. -/
def fault? (draft : Draft) (rule : Rule) (value : Json) : Except Failure (Option Fault) :=
  match rule.findings draft value with
  | [] => .ok none
  | .fault fault :: _ => .ok (some fault)
  | .failure failure :: _ => .error failure

end Rule

end JsonExpr.Schema
