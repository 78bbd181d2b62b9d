import ResilientHttp.Json.Form
import ResilientHttp.Json.Reader
import ResilientHttp.Json.Writer
import ResilientHttp.Xml.Attribute
import ResilientHttp.Xml.Value

/-! Records: structured values of a known shape, and what is sent and received in general. -/
namespace ResilientHttp

inductive Record.Kind
  | text
  /-- A whole number from zero to `max`. -/
  | natural (max : Nat)
deriving Repr, DecidableEq

structure Record.Shape where
  name : String
  fields : List (String × Record.Kind)
deriving Repr, DecidableEq

inductive Record.Content
  | text (s : String)
  | natural (n : Nat)
deriving Repr, DecidableEq

/-- A record: the contents of its fields, in the order of the shape. -/
structure Record where
  shape : Record.Shape
  contents : List Record.Content
deriving Repr, DecidableEq

namespace Record

def Content.toJson : Content → Json
  | .text s => .text s
  | .natural n => Json.natural n

def Content.plain : Content → String
  | .text s => s
  | .natural n => toString n

def members (r : Record) : List (String × Content) := (r.shape.fields.map Prod.fst).zip r.contents

def toJson (r : Record) : Json := Json.ofMembers (r.members.map fun m => (m.1, m.2.toJson))

def jsonText (r : Record) : String :=
  let field (m : String × Content) : String := Json.writeText m.1 ++ ":" ++ Json.write m.2.toJson
  "\x7b" ++ ",".intercalate (r.members.map field) ++ "\x7d"

/-- One element for the record and in it one for each field. -/
def xmlText (r : Record) : String :=
  s!"<{r.shape.name}>" ++ String.join (r.members.map fun m => Xml.element m.1 m.2.plain) ++
    s!"</{r.shape.name}>"

def Kind.ofJson? : Kind → Json → Option Content
  | .text, .text s => some (.text s)
  | .natural max, .number (.natural n) => if n ≤ max then some (.natural n) else none
  | _, _ => none

/-- The content that a text is, in a field of some kind; a number may have blanks around it. -/
def Kind.ofText? : Kind → String → Option Content
  | .text, s => some (.text s)
  | .natural max, s => (Text.readNatUpTo? max (Xml.trimmed s)).map .natural

/-- Puts together fields that were found by name; each must be there. -/
def ofFound? (shape : Shape) (found : List (String × Content)) : Option Record :=
  (shape.fields.mapM fun f => found.lookup f.1).map fun contents => ⟨shape, contents⟩

/-- A record from a JSON value: an object with its fields, or a list of them in order. -/
def ofJson? (shape : Shape) : Json → Option Record
  | .object members =>
    (shape.fields.mapM fun f => (members.lookup f.1).bind f.2.ofJson?).map fun cs => ⟨shape, cs⟩
  | .list items =>
    if items.length = shape.fields.length then
      ((shape.fields.zip items).mapM fun (p : (String × Kind) × Json) => p.1.2.ofJson? p.2).map
        fun cs => ⟨shape, cs⟩
    else none
  | _ => none

/-- Reads the members of an object; unknown ones are passed over, known ones come once. -/
def readJsonMembers? (shape : Shape) :
    (fuel : Nat) → (found : List (String × Content)) → Json.Bytes →
      Option (List (String × Content) × Json.Bytes)
  | 0, _, _ => none
  | fuel + 1, found, bs => do
    let (name, rest) ← Json.readName? true bs
    let (found, rest) ← match shape.fields.lookup name with
      | none => (Json.skipValue? rest).map fun r => (found, r)
      | some kind => do
        guard (found.lookup name).isNone
        let (j, r) ← Json.readWanted? (Json.maxDepth - 1) rest
        let content ← kind.ofJson? j
        pure ((name, content) :: found, r)
    match Json.skipBlanks rest with
    | 0x7D :: rest => return (found, rest)
    | 0x2C :: rest => readJsonMembers? shape fuel found rest
    | _ => none

def ofJsonBytes? (shape : Shape) (bytes : ByteArray) : Option Record := do
  match Json.skipBlanks bytes.data.toList with
  | 0x7B :: rest =>
    let (found, rest) ← match Json.skipBlanks rest with
      | 0x7D :: rest => some ([], rest)
      | rest => readJsonMembers? shape (rest.length + 1) [] rest
    guard (Json.skipBlanks rest).isEmpty
    ofFound? shape found
  | _ => (Json.parse? bytes).bind (ofJson? shape)

/-- Reads the elements of a record up to its end; unknown ones and texts are passed over. -/
def readXmlFields? (shape : Shape) :
    (fuel : Nat) → (found : List (String × Content)) → List Xml.Token →
      Option (List (String × Content))
  | 0, _, _ => none
  | fuel + 1, found, ts =>
    match ts with
    | .finish :: _ => some found
    | .text pieces :: rest => do
      let _ ← Xml.content? pieces
      readXmlFields? shape fuel found rest
    | .start tag _ :: rest =>
      let name := Xml.localName tag
      match shape.fields.lookup name with
      | none => (Xml.skipElement? 0 rest).bind (readXmlFields? shape fuel found)
      | some kind => do
        guard (found.lookup name).isNone
        let (s, rest) ← Xml.elementText? rest
        let content ← kind.ofText? s
        readXmlFields? shape fuel ((name, content) :: found) rest
    | _ => none

/-- A record from XML text with any outermost name, before which blanks may stand. -/
def ofXml? (shape : Shape) (s : String) : Option Record := do
  let ts ← match Xml.tokens s with
    | .text pieces :: ts => do
      guard (Xml.isBlank (← Xml.content? pieces))
      pure ts
    | ts => pure ts
  let .start _ attributes :: rest := ts | none
  let _ ← Xml.attributes? attributes.length attributes
  let found ← readXmlFields? shape (ts.length + 1) [] rest
  ofFound? shape found

end Record

/-- What serializing a value gives, in each form, or why it fails. -/
structure Writable where
  json : Except String String
  xml : Except String String
  /-- The structured form that registered encoders are given. -/
  tree : Except String Json
  form : Except String String

/-- Values and records, which are written into bodies and read from them. -/
inductive Payload
  | value (j : Json)
  | record (r : Record)

inductive Payload.Goal
  | value
  | record (shape : Record.Shape)

namespace Payload

/-- The structured form that registered codecs exchange. -/
def toJson : Payload → Json
  | value j => j
  | record r => r.toJson

def jsonText : Payload → String
  | value j => j.write
  | record r => r.jsonText

def valueKind : Json → String
  | .null => "\x60()\x60"
  | .bool _ => "\x60bool\x60"
  | .number (.natural _) => "\x60u64\x60"
  | .number (.negative _) => "\x60i64\x60"
  | .number (.float _) => "\x60f64\x60"
  | .text _ => "\x60&str\x60"
  | .list _ => "sequence"
  | .object _ => "map"

/-- XML text, or why there is none: a value without a name has no outermost element. -/
def xmlText : Payload → Except String String
  | value j => .error s!"unsupported value: cannot serialize {valueKind j} without defined root tag"
  | record r => .ok r.xmlText

def form : Payload → Except Json.FormFault String
  | value j => j.form
  | record r => (Json.object (r.members.map fun m => (m.1, m.2.toJson))).form

def writable (v : Payload) : Writable where
  json := .ok v.jsonText
  xml := v.xmlText
  tree := .ok v.toJson
  form := v.form.mapError Json.FormFault.message

def ofJson? : Goal → Json → Option Payload
  | .value, j => some (value j)
  | .record shape, j => (Record.ofJson? shape j).map record

def ofJsonBytes? : Goal → ByteArray → Option Payload
  | .value, bytes => (Json.parse? bytes).map value
  | .record shape, bytes => (Record.ofJsonBytes? shape bytes).map record

def ofXmlBytes? (goal : Goal) (bytes : ByteArray) : Option Payload := do
  let s ← (Utf8.decode bytes).toOption
  match goal with
  | .value => (Xml.value? s).map value
  | .record shape => (Record.ofXml? shape s).map record

end Payload
end ResilientHttp
