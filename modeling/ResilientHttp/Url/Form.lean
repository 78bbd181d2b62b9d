import ResilientHttp.Url.Parser

/-! Pairs as forms and queries write them. -/
namespace ResilientHttp.Url

/-- A character of a form: letters, digits and four marks stay, a space becomes a plus sign. -/
def formChar (c : Char) : List Char :=
  if c = ' ' then ['+'] else escapeChar (fun b => !(isFormByte b)) c
where
  isFormByte (b : UInt8) : Bool :=
    isOneOf "*-._" b || (0x30 ≤ b && b ≤ 0x39) || (0x41 ≤ b && b ≤ 0x5A) || (0x61 ≤ b && b ≤ 0x7A)

def formText (s : String) : String := String.ofList (s.toList.flatMap formChar)

def formPair (pair : String × String) : String := formText pair.1 ++ "=" ++ formText pair.2

def formPairs (pairs : List (String × String)) : String := "&".intercalate (pairs.map formPair)

def appendPairs (u : Url) (pairs : List (String × String)) : Url :=
  if pairs.isEmpty then u
  else
    let before := u.query.getD ""
    { u with query := some (before ++ (if before.isEmpty then "" else "&") ++ formPairs pairs) }

end ResilientHttp.Url
