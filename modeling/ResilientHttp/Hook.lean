import ResilientHttp.Activity
import ResilientHttp.Text.Base64

/-! Hooks: what is done to every request on its way out and to every response at the end. -/
namespace ResilientHttp

structure Hook where
  /-- What a hook does before it hands a request on or refuses it; `seen` is the number of requests
  that it saw before. -/
  beforeRequest : (seen : Nat) → Request → Activity Unit := fun _ _ => .done ()
  /-- Changes or refuses a request. -/
  onRequest : (seen : Nat) → Request → Except Error Request := fun _ r => .ok r
  /-- Changes or refuses a response; `seen` is the number of responses that it saw before. -/
  onResponse : (seen : Nat) → Response → Activity (Except Error Response) := fun _ r => .done (.ok r)

def Hook.refuseErrors : Hook where
  onResponse _ r :=
    let reading := r.errorForStatus
    .pass (.done (reading.result.map fun _ => reading.rest)) reading.passed

structure Credentials where
  name : Header.Name
  value : Header.Value

namespace Credentials

def secret (s : String) : Except Error Header.Value :=
  match Header.Value.parse? s with
  | some v => .ok { v with sensitive := true }
  | none => .error (.interceptor Header.Fault.value.message)

def bearer (token : String) : Except Error Credentials := do
  return ⟨.authorization, ← secret ("Bearer " ++ token)⟩

def basicValue (username password : String) : Except Error Header.Value :=
  secret ("Basic " ++ Base64.encode (username ++ ":" ++ password).toUTF8)

def basic (username password : String) : Except Error Credentials := do
  return ⟨.authorization, ← basicValue username password⟩

def apiKey (header key : String) : Except Error Credentials :=
  match Header.Name.parse? header with
  | some name => do return ⟨name, ← secret key⟩
  | none => .error (.interceptor Header.Fault.name.message)

/-- Puts the header in the place of all others of its name. -/
def sign (c : Credentials) (r : Request) : Request :=
  { r with headers := r.headers.insert c.name c.value }

def hook (c : Credentials) : Hook := { onRequest := fun _ r => .ok (c.sign r) }

end Credentials
end ResilientHttp
