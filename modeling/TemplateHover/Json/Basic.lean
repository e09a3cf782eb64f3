namespace TemplateHover

/-- A number of a JSON text. Whole numbers that fit in 64 bits stay exact. -/
inductive Json.Number where
  | integer (value : Int)
  | float (value : Float)

/-- A JSON value. The members of an object stand in the order of their names, each name once. -/
inductive Json where
  | null
  | bool (value : Bool)
  | number (value : Json.Number)
  | string (value : String)
  | array (items : List Json)
  | object (members : List (String × Json))

namespace Json

/-- The number of a whole number. -/
def int (value : Int) : Json :=
  .number (.integer value)

/-- Adds a member to an object, in its place by name. A member of the same name is replaced. -/
def insertMember (name : String) (value : Json) :
    List (String × Json) → List (String × Json)
  | [] => [(name, value)]
  | (other, old) :: rest =>
    if name < other then (name, value) :: (other, old) :: rest
    else if name = other then (name, value) :: rest
    else (other, old) :: insertMember name value rest

/-- The object with the given members. Of two members with one name the later one counts. -/
def ofMembers (members : List (String × Json)) : Json :=
  .object (members.foldl (fun known member => insertMember member.1 member.2 known) [])

/-- The member of an object with the given name. -/
def get? : Json → String → Option Json
  | .object members, name => members.lookup name
  | _, _ => none

end Json

end TemplateHover
