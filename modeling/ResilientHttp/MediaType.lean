import ResilientHttp.Text.Blank

/-! Media types: the part of a content type that chooses how a body is read. -/
namespace ResilientHttp.MediaType
open Text

/-- The part before the parameters, trimmed and in lower case. -/
def essence (contentType : List Char) : List Char :=
  (trimChars (contentType.takeWhile (· ≠ ';'))).map Char.toLower

/-- One slash with something on both sides, and no blank anywhere. -/
def isSound (mediaType : List Char) : Bool :=
  match splitAt? (· = '/') mediaType with
  | none => false
  | some (type, subtype) =>
    !type.isEmpty && !subtype.isEmpty && !mediaType.any isBlank && !subtype.contains '/'

/-- The media type that a content type names, in the form in which media types are compared. -/
def normalize? (contentType : String) : Option String :=
  let e := essence contentType.toList
  if isSound e then some (String.ofList e) else none

inductive BuiltIn
  | json
  | xml
deriving Repr, DecidableEq

def builtIn? (mediaType : String) : Option BuiltIn :=
  if mediaType = "application/json" then some .json
  else if mediaType = "application/xml" || mediaType = "text/xml" then some .xml
  else if "+json".toList.isSuffixOf mediaType.toList then some .json
  else if "+xml".toList.isSuffixOf mediaType.toList then some .xml
  else none

end ResilientHttp.MediaType
