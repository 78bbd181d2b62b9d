import ResilientHttp.Text.Blank
import ResilientHttp.Text.Integer

/-! XML as a sequence of tokens: tags and the texts between them.

Comments, instructions and document types leave no token and do not part texts. A text keeps its
blanks; a text of nothing else is for its reader to pass over. -/
namespace ResilientHttp.Xml

inductive Piece
  | plain (cs : List Char)
  | reference (name : List Char)
  /-- Characters that are taken as they are. -/
  | literal (cs : List Char)
deriving Repr, DecidableEq

inductive Token
  /-- An opening tag, with what stands behind its name. -/
  | start (name : List Char) (attributes : List Char)
  | finish
  | text (pieces : List Piece)
  /-- From here on the text is not well formed. -/
  | broken
deriving Repr, DecidableEq

def isSpace (c : Char) : Bool := c = ' ' || c = '\n' || c = '\r' || c = '\t'

def cutAt? (mark : List Char) : List Char → Option (List Char × List Char)
  | [] => if mark.isEmpty then some ([], []) else none
  | c :: cs =>
    if mark.isPrefixOf (c :: cs) then some ([], (c :: cs).drop mark.length)
    else (cutAt? mark cs).map fun (a, b) => (c :: a, b)

/-- The inside of a tag up to its closing bracket, which may stand in quotes. -/
def cutTag? : (quote : Option Char) → List Char → Option (List Char × List Char)
  | _, [] => none
  | quote, c :: cs =>
    if quote.isNone && c = '>' then some ([], cs)
    else
      let quote := match quote with
        | some q => if c = q then none else some q
        | none => if c = '"' || c = '\'' then some c else none
      (cutTag? quote cs).map fun (a, b) => (c :: a, b)

/-- What follows a document type, whose brackets may be nested. -/
def afterDoctype? : (depth : Nat) → List Char → Option (List Char)
  | _, [] => none
  | depth, '<' :: cs => afterDoctype? (depth + 1) cs
  | depth, '>' :: cs => if depth = 0 then some cs else afterDoctype? (depth - 1) cs
  | depth, _ :: cs => afterDoctype? depth cs

/-- A name at the end of a reference comes before any other mark. -/
def cutReference? (cs : List Char) : Option (List Char × List Char) :=
  match cs.dropWhile fun c => !(c = ';' || c = '&' || c = '<') with
  | ';' :: rest => some (cs.takeWhile fun c => c ≠ ';', rest)
  | _ => none

/-- The parts of the input, before texts are put together. -/
inductive Part
  | start (name : List Char) (attributes : List Char) (closed : Bool)
  | finish (name : List Char)
  | piece (p : Piece)
  | nothing
deriving Repr, DecidableEq

/-- An opening tag; a slash at its end closes it at once. -/
def openingTag (inside : List Char) : Part :=
  let closed := inside.getLast? = some '/'
  let content := if closed then inside.dropLast else inside
  .start (content.takeWhile fun c => !isSpace c) (content.dropWhile fun c => !isSpace c) closed

def nextPart? (cs : List Char) : Option (Part × List Char) :=
  match cs with
  | [] => none
  | '<' :: '!' :: '-' :: '-' :: rest =>
    (cutAt? ['-', '-', '>'] rest).map fun (_, r) => (.nothing, r)
  | '<' :: '!' :: '[' :: 'C' :: 'D' :: 'A' :: 'T' :: 'A' :: '[' :: rest =>
    (cutAt? [']', ']', '>'] rest).map fun (a, r) => (.piece (.literal a), r)
  | '<' :: '!' :: rest => do
    guard ((rest.take 7).map Char.toLower = "doctype".toList)
    let content := (rest.drop 7).dropWhile isSpace
    guard (content.head? ≠ some '>')
    let r ← afterDoctype? 0 content
    return (.nothing, r)
  | '<' :: '?' :: '>' :: _ => none
  | '<' :: '?' :: rest => (cutAt? ['?', '>'] rest).map fun (_, r) => (.nothing, r)
  | '<' :: '/' :: rest =>
    (cutAt? ['>'] rest).map fun (a, r) =>
      (.finish (if a.all isSpace then a else (a.reverse.dropWhile isSpace).reverse), r)
  | '<' :: rest => (cutTag? none rest).map fun (a, r) => (openingTag a, r)
  | '&' :: rest => (cutReference? rest).map fun (a, r) => (.piece (.reference a), r)
  | _ =>
    let text := cs.takeWhile fun c => !(c = '<' || c = '&')
    some (.piece (.plain text), cs.drop text.length)

/-- The parts of a text in order; nothing at the end stands for a fault. -/
def parts : (fuel : Nat) → List Char → List (Option Part)
  | _, [] => []
  | 0, _ => [none]
  | fuel + 1, cs =>
    match nextPart? cs with
    | none => [none]
    | some (p, rest) => some p :: parts fuel rest

def textToken (pieces : List Piece) : List Token := if pieces.isEmpty then [] else [.text pieces]

/-- Puts pieces together and checks that tags match; `held` are the pieces of the text being read,
last first, and `opened` the names of the open tags, innermost first. -/
def assemble : (held : List Piece) → (opened : List (List Char)) → List (Option Part) → List Token
  | held, _, [] => textToken held.reverse
  | held, _, none :: _ => textToken held.reverse ++ [.broken]
  | held, opened, some .nothing :: rest => assemble held opened rest
  | held, opened, some (.piece p) :: rest => assemble (p :: held) opened rest
  | held, opened, some (.start name attributes closed) :: rest =>
    textToken held.reverse ++ .start name attributes ::
      (if closed then .finish :: assemble [] opened rest else assemble [] (name :: opened) rest)
  | held, opened, some (.finish name) :: rest =>
    textToken held.reverse ++
      match opened with
      | top :: others => if top = name then .finish :: assemble [] others rest else [.broken]
      | [] => [.broken]

def tokens (s : String) : List Token :=
  let cs := match s.toList with
    | c :: rest => if c.toNat = 0xFEFF then rest else c :: rest
    | [] => []
  assemble [] [] (parts cs.length cs)

def numbered? (cs : List Char) : Option Char := do
  let n ← match cs with
    | 'x' :: digits =>
      if digits.isEmpty then none
      else (digits.mapM Text.hexValue?).map fun ns => ns.foldl (fun n d => n * 16 + d) 0
    | digits => Text.readDigits? digits
  guard (n ≠ 0 && n.isValidChar)
  return Char.ofNat n

def entity? : List Char → Option Char
  | '#' :: cs => numbered? cs
  | ['l', 't'] => some '<'
  | ['g', 't'] => some '>'
  | ['a', 'm', 'p'] => some '&'
  | ['a', 'p', 'o', 's'] => some '\''
  | ['q', 'u', 'o', 't'] => some '"'
  | _ => none

def lineFeeds : List Char → List Char
  | [] => []
  | '\r' :: '\n' :: cs | '\r' :: '\u0085' :: cs => '\n' :: lineFeeds cs
  | '\r' :: cs | '\u0085' :: cs | '\u2028' :: cs => '\n' :: lineFeeds cs
  | c :: cs => c :: lineFeeds cs

def Piece.chars? : Piece → Option (List Char)
  | .plain cs | .literal cs => some (lineFeeds cs)
  | .reference name => (entity? name).map ([·])

/-- The text of its pieces, if every reference stands for something. -/
def content? (pieces : List Piece) : Option String :=
  (pieces.mapM Piece.chars?).map fun css => String.ofList css.flatten

def trimmed (s : String) : List Char :=
  ((s.toList.dropWhile isSpace).reverse.dropWhile isSpace).reverse

def isBlank (s : String) : Bool := s.toList.all isSpace

def localName (name : List Char) : String :=
  match Text.splitAt? (· = ':') name with
  | some (_, rest) => String.ofList rest
  | none => String.ofList name

/-- The text of an element whose opening tag has been read, and what follows the element. -/
def elementText? : List Token → Option (String × List Token)
  | .text pieces :: .finish :: rest => (content? pieces).map (·, rest)
  | .finish :: rest => some ("", rest)
  | _ => none

/-- Passes over the rest of an element, `depth` elements deep inside it. -/
def skipElement? : (depth : Nat) → List Token → Option (List Token)
  | _, [] => none
  | _, .broken :: _ => none
  | depth, .text _ :: rest => skipElement? depth rest
  | depth, .start .. :: rest => skipElement? (depth + 1) rest
  | 0, .finish :: rest => some rest
  | depth + 1, .finish :: rest => skipElement? depth rest

/-- A character of a text: the three that would open or close markup are escaped. -/
def escapeChar : Char → String
  | '&' => "&amp;"
  | '<' => "&lt;"
  | '>' => "&gt;"
  | c => c.toString

def escape (s : String) : String := String.join (s.toList.map escapeChar)

def element (name text : String) : String :=
  if text.isEmpty then s!"<{name}/>" else s!"<{name}>{escape text}</{name}>"

end ResilientHttp.Xml
