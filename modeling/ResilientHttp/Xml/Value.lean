import ResilientHttp.Json.Basic
import ResilientHttp.Xml.Attribute

/-! XML as a JSON value: an element is an object of its attributes, texts and elements. -/
namespace ResilientHttp.Xml

/-- The member under which the text of an element stands. -/
def textKey : String := "$text"

def attributeMembers? (attributes : List Char) : Option (List (String × Json)) := do
  let as ← attributes? attributes.length attributes
  as.mapM fun (name, value) => do
    let text ← attributeText? value.length value
    return (attributeKey name, .text (String.ofList text))

/-- Reads the members of an element up to its end; of those with one name the last is kept. -/
def readElement? : (fuel : Nat) → (read : List (String × Json)) → List Token →
    Option (Json × List Token)
  | 0, _, _ => none
  | fuel + 1, read, ts =>
    match ts with
    | .finish :: rest => some (.object read, rest)
    | .text pieces :: rest => do
      let s ← content? pieces
      let read := if isBlank s then read else Json.insertMember textKey (.text s) read
      readElement? fuel read rest
    | .start name attributes :: rest => do
      let members ← attributeMembers? attributes
      let own := members.foldl (fun acc m => Json.insertMember m.1 m.2 acc) []
      let (j, rest) ← readElement? fuel own rest
      readElement? fuel (Json.insertMember (localName name) j read) rest
    | _ => none

def value? (s : String) : Option Json :=
  let ts := tokens s
  match ts with
  | .text pieces :: _ => (content? pieces).map Json.text
  | .start _ attributes :: rest => do
    let members ← attributeMembers? attributes
    let own := members.foldl (fun acc m => Json.insertMember m.1 m.2 acc) []
    (readElement? ts.length own rest).map Prod.fst
  | _ => none

end ResilientHttp.Xml
