import JsonExpr.Schema.Rule

/-!
The versions of the schema language, each as the rules of its keywords.
-/

namespace JsonExpr.Schema

namespace Rule

def string : Rule := .ofKind [.string]

def boolean : Rule := .ofKind [.boolean]

def number : Rule := .ofKind [.number]

def array : Rule := .ofKind [.array]

/-- A length or a count. -/
def size : Rule := .all [.ofKind [.integer], .minimumZero]

def positive : Rule := .all [.ofKind [.number], .aboveZero]

def schemaArray : Rule := .all [.ofKind [.array], .nonEmpty, .eachItem .schema]

def stringArray : Rule := .all [.ofKind [.array], .eachItem string, .unique]

/-- An object of named schemas. -/
def schemaMap : Rule := .all [.ofKind [.object], .eachMember .schema]

def typeNames : Rule :=
  .oneOf ["array", "boolean", "integer", "null", "number", "object", "string"]

/-- One type or a list of different types. -/
def typeKeyword : Rule :=
  .any [typeNames, .all [.ofKind [.array], .eachItem typeNames, .nonEmpty, .unique]]

def expression : Rule := .all [string, .pattern]

/-- An object of schemas whose names are regular expressions. -/
def patternMap : Rule := .all [schemaMap, .patternNames]

def itemsKeyword : Rule := .any [.schema, schemaArray]

/-- For each name a schema or names that come with it. -/
def dependencies (names : Rule) : Rule :=
  .all [.ofKind [.object], .eachMember (.any [.schema, names])]

def nonEmptyStringArray : Rule := .all [.ofKind [.array], .nonEmpty, .eachItem string, .unique]

/-- Values of which no two are equal. -/
def enumeration : Rule := .all [.ofKind [.array], .nonEmpty, .unique]

def booleanOrSchema : Rule := .any [boolean, .schema]

end Rule

namespace Draft

/-- The keywords of Draft 7. -/
def keywords7 : List (String × Rule) :=
  [("$id", .string), ("$schema", .string), ("$ref", .string), ("$comment", .string),
    ("title", .string), ("description", .string), ("readOnly", .boolean), ("examples", .array),
    ("multipleOf", .positive), ("maximum", .number), ("exclusiveMaximum", .number),
    ("minimum", .number), ("exclusiveMinimum", .number), ("maxLength", .size),
    ("minLength", .size), ("pattern", .expression), ("additionalItems", .schema),
    ("items", .itemsKeyword), ("maxItems", .size), ("minItems", .size), ("uniqueItems", .boolean),
    ("contains", .schema), ("maxProperties", .size), ("minProperties", .size),
    ("required", .stringArray), ("additionalProperties", .schema), ("definitions", .schemaMap),
    ("properties", .schemaMap), ("patternProperties", .patternMap),
    ("dependencies", .dependencies .stringArray), ("propertyNames", .schema), ("enum", .array),
    ("type", .typeKeyword), ("format", .string), ("contentMediaType", .string),
    ("contentEncoding", .string), ("if", .schema), ("then", .schema), ("else", .schema),
    ("allOf", .schemaArray), ("anyOf", .schemaArray), ("oneOf", .schemaArray), ("not", .schema)]

def without (dropped : List String) (keywords : List (String × Rule)) : List (String × Rule) :=
  keywords.filter fun entry => ! dropped.contains entry.1

def draft7 : Draft where
  kinds := [.object, .boolean]
  keywords := keywords7

/-- Draft 6 has no conditional schemas. -/
def draft6 : Draft where
  kinds := [.object, .boolean]
  keywords :=
    without ["$comment", "readOnly", "contentMediaType", "contentEncoding", "if", "then", "else"]
      keywords7

/-- In Draft 4 a schema is an object, and the exclusive bounds qualify the bounds beside them. -/
def draft4 : Draft where
  kinds := [.object]
  keywords :=
    [("id", .string), ("$schema", .string), ("title", .string), ("description", .string),
      ("multipleOf", .positive), ("maximum", .number), ("exclusiveMaximum", .boolean),
      ("minimum", .number), ("exclusiveMinimum", .boolean), ("maxLength", .size),
      ("minLength", .size), ("pattern", .expression), ("additionalItems", .booleanOrSchema),
      ("items", .itemsKeyword), ("maxItems", .size), ("minItems", .size),
      ("uniqueItems", .boolean), ("maxProperties", .size), ("minProperties", .size),
      ("required", .nonEmptyStringArray), ("additionalProperties", .booleanOrSchema),
      ("definitions", .schemaMap), ("properties", .schemaMap), ("patternProperties", .schemaMap),
      ("dependencies", .dependencies .nonEmptyStringArray), ("enum", .enumeration),
      ("type", .typeKeyword), ("format", .string), ("allOf", .schemaArray),
      ("anyOf", .schemaArray), ("oneOf", .schemaArray), ("not", .schema)]
  companions := [("exclusiveMaximum", "maximum"), ("exclusiveMinimum", "minimum")]
  integralFloats := false

/-- In Draft 3 a schema may stand wherever a type may, and types may have any name. -/
def draft3 : Draft where
  kinds := [.object]
  keywords :=
    let types : Rule :=
      .all [.ofKind [.string, .array], .eachItem (.any [.string, .schema]), .unique]
    let schemas : Rule := .all [.any [.schema, .array], .eachItem .schema]
    [("type", types), ("properties", .schemaMap), ("patternProperties", .schemaMap),
      ("additionalProperties", .booleanOrSchema), ("items", schemas),
      ("additionalItems", .booleanOrSchema), ("required", .boolean),
      ("dependencies", .all [.ofKind [.object],
        .eachMember (.all [.any [.string, .array, .schema], .eachItem .string])]),
      ("minimum", .number), ("maximum", .number), ("exclusiveMinimum", .boolean),
      ("exclusiveMaximum", .boolean), ("minItems", .size), ("maxItems", .size),
      ("uniqueItems", .boolean), ("pattern", .expression), ("minLength", .size),
      ("maxLength", .ofKind [.integer]), ("enum", .enumeration), ("title", .string),
      ("description", .string), ("format", .string), ("divisibleBy", .positive),
      ("disallow", types), ("extends", schemas), ("id", .string), ("$ref", .string),
      ("$schema", .string)]
  companions := [("exclusiveMinimum", "minimum"), ("exclusiveMaximum", "maximum")]
  integralFloats := false

/-- The keywords for the places of schemas that the later drafts share. -/
def placeKeywords : List (String × Rule) :=
  [("properties", .schemaMap), ("patternProperties", .patternMap),
    ("dependentSchemas", .schemaMap), ("propertyNames", .schema), ("if", .schema),
    ("then", .schema), ("else", .schema), ("allOf", .schemaArray), ("anyOf", .schemaArray),
    ("oneOf", .schemaArray), ("not", .schema)]

/-- The keywords for values that the later drafts share. -/
def valueKeywords : List (String × Rule) :=
  [("multipleOf", .positive), ("maximum", .number), ("exclusiveMaximum", .number),
    ("minimum", .number), ("exclusiveMinimum", .number), ("maxLength", .size),
    ("minLength", .size), ("pattern", .expression), ("maxItems", .size), ("minItems", .size),
    ("uniqueItems", .boolean), ("maxContains", .size), ("minContains", .size),
    ("maxProperties", .size), ("minProperties", .size), ("required", .stringArray),
    ("dependentRequired", .all [.ofKind [.object], .eachMember .stringArray])]

/-- The keywords for notes and contents, and those of earlier drafts that are still checked. -/
def noteKeywords : List (String × Rule) :=
  [("title", .string), ("description", .string), ("deprecated", .boolean), ("readOnly", .boolean),
    ("writeOnly", .boolean), ("examples", .array), ("format", .string),
    ("contentMediaType", .string), ("contentEncoding", .string), ("contentSchema", .schema),
    ("definitions", .schemaMap), ("dependencies", .dependencies .stringArray)]

/-- An identifier of a schema without a fragment. -/
def identity : Rule := .all [.string, .shaped .noFragment]

/-- Anchors of Draft 2019-09. -/
def anchor2019 : Rule := .all [.string, .shaped (.anchor [] ['.', ':', '_'])]

/-- Anchors of Draft 2020-12. -/
def anchor2020 : Rule := .all [.string, .shaped (.anchor ['_'] ['.', '_'])]

/-- For each vocabulary whether it is required. -/
def vocabulary : Rule := .all [.ofKind [.object], .eachMember .boolean]

/-- Draft 2019-09 keeps named schemas under `$defs` as well. -/
def draft2019 : Draft where
  kinds := [.object, .boolean]
  keywords :=
    [("$id", identity), ("$schema", .string), ("$anchor", anchor2019), ("$ref", .string),
      ("$recursiveRef", .string), ("$recursiveAnchor", .boolean), ("$vocabulary", vocabulary),
      ("$comment", .string), ("$defs", .schemaMap), ("additionalItems", .schema),
      ("unevaluatedItems", .schema), ("items", .itemsKeyword), ("contains", .schema),
      ("additionalProperties", .schema), ("unevaluatedProperties", .schema)] ++
      placeKeywords ++ valueKeywords ++ [("enum", .array), ("type", .typeKeyword)] ++ noteKeywords

/-- In Draft 2020-12 the schemas of the first items stand apart from the one of the others. -/
def draft2020 : Draft where
  kinds := [.object, .boolean]
  keywords :=
    [("$id", identity), ("$schema", .string), ("$ref", .string), ("$anchor", anchor2020),
      ("$dynamicRef", .string), ("$dynamicAnchor", anchor2020), ("$vocabulary", vocabulary),
      ("$comment", .string), ("$defs", .schemaMap), ("prefixItems", .schemaArray),
      ("items", .schema), ("contains", .schema), ("additionalProperties", .schema)] ++
      placeKeywords ++
      [("unevaluatedItems", .schema), ("unevaluatedProperties", .schema), ("type", .typeKeyword),
        ("enum", .array)] ++
      valueKeywords ++ noteKeywords ++
      [("$recursiveAnchor", anchor2020), ("$recursiveRef", .string)]

/-- The identifier of a version, by its scheme and its path. -/
def identifier (scheme path : String) : Uri :=
  { scheme, authority := "json-schema.org", path, query := "", fragment := "" }

/-- The identifier of each version other than Draft 7. -/
def identifiers : List (Uri × Draft) :=
  [(identifier "http" "/draft-03/schema", draft3), (identifier "http" "/draft-04/schema", draft4),
    (identifier "http" "/draft-06/schema", draft6),
    (identifier "https" "/draft/2019-09/schema", draft2019),
    (identifier "https" "/draft/2020-12/schema", draft2020)]

/-- The version that an identifier names, and Draft 7 otherwise. -/
def ofIdentifier (text : String) : Except Failure Draft := do
  let uri ← (Uri.ofText text).mapError Failure.identifier
  return (identifiers.lookup uri).getD draft7

end Draft

/-- Why a document is no schema, if it is none. -/
def schemaError : Json → Except Failure (Option String)
  | .obj members => do
      match Bindings.get? members "$schema" with
      | none => return (← Rule.schema.fault? .draft7 (.obj members)).map Fault.text
      | some (.str identifier) =>
          let draft ← Draft.ofIdentifier identifier
          return (← Rule.schema.fault? draft (.obj members)).map Fault.text
      | some value => return some s!"\"$schema\" must be a string, found {value.typeName}"
  | value => return some s!"expected a JSON Schema object, found {value.typeName}"

end JsonExpr.Schema
