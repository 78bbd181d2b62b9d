import ResilientHttp.Xml.Token

/-! The attributes of a tag. -/
namespace ResilientHttp.Xml

/-- Pairs of names and quoted values, each name once. -/
def attributes? : (fuel : Nat) → List Char → Option (List (List Char × List Char))
  | 0, cs => if cs.all isSpace then some [] else none
  | fuel + 1, cs =>
    match cs.dropWhile isSpace with
    | [] => some []
    | cs => do
      let name := cs.takeWhile fun c => !(isSpace c || c = '=')
      guard !name.isEmpty
      let '=' :: rest := (cs.drop name.length).dropWhile isSpace | none
      let quote :: rest := rest.dropWhile isSpace | none
      guard (quote = '"' || quote = '\'')
      let (value, rest) ← cutAt? [quote] rest
      let others ← attributes? fuel rest
      guard (others.all fun a => a.1 ≠ name)
      return (name, value) :: others

def attributeText? : (fuel : Nat) → List Char → Option (List Char)
  | _, [] => some []
  | 0, _ => none
  | fuel + 1, '&' :: cs => do
    let (name, rest) ← Text.splitAt? (· = ';') cs
    let c ← entity? name
    let others ← attributeText? fuel rest
    return c :: others
  | fuel + 1, c :: cs => (attributeText? fuel cs).map (c :: ·)

/-- The member that an attribute becomes: its local name after an at sign, or its whole name if
it belongs to XML itself. -/
def attributeKey (name : List Char) : String :=
  let s := String.ofList name
  if s = "xmlns" || "xmlns:".isPrefixOf s || "xml:".isPrefixOf s then "@" ++ s
  else "@" ++ localName name

end ResilientHttp.Xml
