import ResilientHttp.Error.Basic
import ResilientHttp.MediaType
import ResilientHttp.Record

/-! Codecs: how a body is written and read, by its media type. -/
namespace ResilientHttp

abbrev Encode := Json → Except Error ByteArray
abbrev Decode := ByteArray → Except Error Json

/-- Registered codecs by normalized media type, each type once on each side. -/
structure Codecs where
  encoders : List (String × Encode) := []
  decoders : List (String × Decode) := []

namespace Codecs

def normalize (contentType : String) : Except Error String :=
  match MediaType.normalize? contentType with
  | some t => .ok t
  | none => .error (.invalidMediaType contentType)

def registerEncoder (c : Codecs) (mediaType : String) (f : Encode) : Except Error Codecs := do
  let key ← normalize mediaType
  return { c with encoders := (key, f) :: c.encoders.filter fun e => e.1 ≠ key }

def registerDecoder (c : Codecs) (mediaType : String) (f : Decode) : Except Error Codecs := do
  let key ← normalize mediaType
  return { c with decoders := (key, f) :: c.decoders.filter fun e => e.1 ≠ key }

def decodes (c : Codecs) (mediaType : String) : Bool :=
  (MediaType.builtIn? mediaType).isSome || (c.decoders.lookup mediaType).isSome

def canDecode (c : Codecs) (contentType : String) : Except Error Bool :=
  (normalize contentType).map c.decodes

/-- What a serializer made; its failures are failures to encode. -/
def serialized {α : Type} (r : Except String α) : Except Error α := r.mapError .encode

/-- Writes a value; the built-in formats come before registered codecs. -/
def encode (c : Codecs) (contentType : String) (value : Writable) : Except Error ByteArray := do
  let mediaType ← normalize contentType
  match MediaType.builtIn? mediaType with
  | some .json => return (← serialized value.json).toUTF8
  | some .xml => return (← serialized value.xml).toUTF8
  | none =>
    match c.encoders.lookup mediaType with
    | some f => f (← serialized value.tree)
    | none => throw (.codecNotFound mediaType)

/-- What was read, or else a failure; why nothing could be read is not told. -/
def decoded (p : Option Payload) : Except Error Payload :=
  match p with
  | some v => .ok v
  | none => .error (.decode "malformed body")

def decode (c : Codecs) (contentType : String) (goal : Payload.Goal) (body : ByteArray) :
    Except Error Payload := do
  let mediaType ← normalize contentType
  match MediaType.builtIn? mediaType with
  | some .json => decoded (Payload.ofJsonBytes? goal body)
  | some .xml => decoded (Payload.ofXmlBytes? goal body)
  | none =>
    match c.decoders.lookup mediaType with
    | some f => do
      let j ← f body
      decoded (Payload.ofJson? goal j)
    | none => throw (.codecNotFound mediaType)

def text (c : Codecs) : String :=
  s!"ContentTypeCodecs \x7b encoders: {c.encoders.length}, decoders: {c.decoders.length} \x7d"

end Codecs
end ResilientHttp
