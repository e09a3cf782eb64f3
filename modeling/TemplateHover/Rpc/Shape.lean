import TemplateHover.Json.Basic
import TemplateHover.Uri.Parser

namespace TemplateHover.Rpc

/-- What the parameters of a message have to look like. -/
inductive Shape where
  | anything
  | text
  | truth
  | number
  /-- A whole number between two bounds, both included. -/
  | whole (low high : Int)
  | uri
  /-- Something that may be missing or null. -/
  | optional (shape : Shape)
  | list (shape : Shape)
  | either (first second : Shape)
  /-- Named fields. A list may give those of a plain record in their order. -/
  | record (plain : Bool) (fields : List (String × Shape))

namespace Shape

/-- Whether a value of this shape may be left out. -/
def isOptional : Shape → Bool
  | .optional _ => true
  | _ => false

mutual

/-- A value with its records as objects, if it has the shape. -/
def normal? : Shape → Json → Option Json
  | .anything, json => some json
  | .text, .string value => some (.string value)
  | .truth, .bool value => some (.bool value)
  | .number, .number value => some (.number value)
  | .whole low high, .number (.integer value) =>
    if low ≤ value ∧ value ≤ high then some (.int value) else none
  | .uri, .string value => if (Uri.parse? value).isSome then some (.string value) else none
  | .optional _, .null => some .null
  | .optional shape, json => shape.normal? json
  | .list shape, .array items => (items.mapM shape.normal?).map .array
  | .either first second, json => (first.normal? json).or (second.normal? json)
  | .record _ fields, .object members => (normalFields? fields members).map .ofMembers
  | .record true fields, .array items =>
    if items.length = fields.length then
      (normalFields? fields ((fields.map Prod.fst).zip items)).map .ofMembers
    else none
  | _, _ => none

/-- The fields of a record, each in its shape. Other members have no meaning. -/
def normalFields? : List (String × Shape) → List (String × Json) → Option (List (String × Json))
  | [], _ => some []
  | (name, shape) :: fields, members => do
    let rest ← normalFields? fields members
    match members.lookup name with
    | none => if shape.isOptional then some rest else none
    | some json => some ((name, ← shape.normal? json) :: rest)

end

/-- A number of 32 bits without a sign. -/
def unsigned : Shape :=
  .whole 0 0xffffffff

/-- A number of 32 bits with a sign. -/
def signed : Shape :=
  .whole (-0x80000000) 0x7fffffff

end Shape

end TemplateHover.Rpc
