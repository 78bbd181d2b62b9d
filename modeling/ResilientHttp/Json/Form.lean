import ResilientHttp.Json.Number
import ResilientHttp.Url.Form

/-! JSON values as form data: the members of one object, as pairs. -/
namespace ResilientHttp.Json

inductive FormFault
  | topLevel
  | value
  | pair
deriving Repr, DecidableEq

def FormFault.message : FormFault → String
  | .topLevel => "top-level serializer supports only maps and structs"
  | .value => "unsupported value"
  | .pair => "unsupported pair"

/-- Forms write no plus sign in an exponent. -/
def formNumberStyle : Decimal.Style := { plusSign := false }

def formValue : Json → Except FormFault String
  | .bool true => .ok "true"
  | .bool false => .ok "false"
  | .number n => .ok (n.text formNumberStyle)
  | .text s => .ok s
  | .null | .list _ | .object _ => .error .value

/-- The form of a value: an object gives its members as pairs, nothing at all gives no pair. -/
def form : Json → Except FormFault String
  | .null | .list [] => .ok ""
  | .list _ => .error .pair
  | .object members => do
    let pairs ← members.mapM fun (name, value) => do return (name, ← formValue value)
    return Url.formPairs pairs
  | .bool _ | .number _ | .text _ => .error .topLevel

end ResilientHttp.Json
