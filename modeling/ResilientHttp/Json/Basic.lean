import ResilientHttp.Text.Integer

/-! JSON values. -/
namespace ResilientHttp

/-- A number: whole ones that fit a machine word stay whole, all others are floating. -/
inductive Json.Number
  | natural (n : Nat)
  /-- Minus `n`. -/
  | negative (n : Nat)
  | float (x : Float)

/-- A JSON value; the members of an object stand in the order of their names, each name once. -/
inductive Json
  | null
  | bool (b : Bool)
  | number (n : Json.Number)
  | text (s : String)
  | list (items : List Json)
  | object (members : List (String × Json))

namespace Json

/-- Puts a member in its place; the last value given for a name is kept. -/
def insertMember {α : Type} (name : String) (value : α) : List (String × α) → List (String × α)
  | [] => [(name, value)]
  | (n, v) :: rest =>
    if name = n then (n, value) :: rest
    else if name < n then (name, value) :: (n, v) :: rest
    else (n, v) :: insertMember name value rest

def ofMembers (members : List (String × Json)) : Json :=
  .object (members.foldl (fun acc m => insertMember m.1 m.2 acc) [])

def natural (n : Nat) : Json := .number (.natural n)

def get? (j : Json) (name : String) : Option Json :=
  match j with
  | .object members => members.lookup name
  | _ => none

end Json
end ResilientHttp
