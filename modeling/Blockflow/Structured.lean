import Blockflow.Text.Blank
import Blockflow.Json.Codec

/-!
# Structured answers

A model that was asked for JSON may wrap it in prose or in a fenced block.  The JSON is cut out,
parsed, and checked against the part of JSON Schema that blocks may declare: the type, the
required keys, and the types of properties.

* `Structured.extract` — the part of an answer that should be JSON.
* `Structured.issues` — what in a value does not conform to a schema.
* **`Structured.parse`** — the value of an answer, or every issue.
-/

namespace Blockflow.Structured

/-! ## Extraction -/

/-- The text before and behind the first occurrence of a pattern. -/
def cut? (pattern cs : List Char) : Option (List Char × List Char) :=
  if pattern.isPrefixOf cs then some ([], cs.drop pattern.length)
  else
    match cs with
    | [] => none
    | c :: rest => (cut? pattern rest).map fun r => (c :: r.1, r.2)

/-- What stands between an opening mark and the next fence. -/
def fenced? (opening cs : List Char) : Option (List Char) := do
  let (_, after) ← cut? opening cs
  let (inside, _) ← cut? ['\x60', '\x60', '\x60'] after
  return Text.trimChars inside

/-- From the first opening to the last closing brace. -/
def braced? (cs : List Char) : Option (List Char) :=
  let inner := cs.dropWhile (· ≠ '\x7b')
  let outer := (inner.reverse.dropWhile (· ≠ '\x7d')).reverse
  if 2 ≤ outer.length then some outer else none

/-- **The part of an answer that should be JSON**: a fenced block marked as JSON, else any fenced
block, else what stands between braces, else everything. -/
def extract (answer : String) : String :=
  let cs := Text.trimChars answer.toList
  let fence := ['\x60', '\x60', '\x60']
  String.ofList <|
    (fenced? (fence ++ ['j', 's', 'o', 'n']) cs).getD <|
      (fenced? fence cs).getD <| (braced? cs).getD cs

/-! ## Conformance -/

/-- The name of a value's type. -/
def typeName : Json → String
  | .null => "null"
  | .bool _ => "boolean"
  | .number _ => "number"
  | .text _ => "string"
  | .array _ => "array"
  | .object _ => "object"

/-- Whether a value has the type of a name; names that mean nothing accept everything. -/
def hasType (v : Json) (name : String) : Bool :=
  match name, v with
  | "object", .object _ => true
  | "array", .array _ => true
  | "string", .text _ => true
  | "number", .number _ => true
  | "integer", .number (.int _) => true
  | "boolean", .bool _ => true
  | "null", .null => true
  | name, _ =>
    !(["object", "array", "string", "number", "integer", "boolean", "null"].contains name)

/-- The type a schema declares. -/
def declaredType? (schema : Json) : Option String := (schema.get? "type").bind Json.asText?

/-- The required keys an object lacks. -/
def missingKeys (ms : Json.Object) (schema : Json) : List String :=
  match (schema.get? "required").bind Json.asArray? with
  | none => []
  | some keys => (keys.filterMap Json.asText?).filterMap fun key =>
    if Table.contains ms key then none else some ("Missing required key: '" ++ key ++ "'")

/-- The properties of an object that are not of their declared types. -/
def mistypedKeys (ms : Json.Object) (schema : Json) : List String :=
  match (schema.get? "properties").bind Json.asObject? with
  | none => []
  | some properties => properties.filterMap fun (key, property) =>
    match Table.get? ms key, declaredType? property with
    | some v, some name =>
      if hasType v name then none
      else some ("Key '" ++ key ++ "' should be " ++ name ++ " but is " ++ typeName v)
    | _, _ => none

/-- **What in a value does not conform to a schema.**  A value of the wrong type is looked at no
further. -/
def issues (v schema : Json) : List String :=
  let wrongType := match declaredType? schema with
    | some name =>
      if hasType v name then none else some ("Expected " ++ name ++ " but got " ++ typeName v)
    | none => none
  match wrongType, v with
  | some issue, _ => [issue]
  | none, .object ms => missingKeys ms schema ++ mistypedKeys ms schema
  | none, _ => []

/-- **The value of an answer**, or every issue with it. -/
def parse (answer : String) (schema : Option Json) : Except (List String) Json :=
  match Json.parse (extract answer) with
  | .error wording => .error ["Output is not valid JSON: " ++ wording]
  | .ok v =>
    match (schema.map (issues v)).getD [] with
    | [] => .ok v
    | found => .error found

end Blockflow.Structured
