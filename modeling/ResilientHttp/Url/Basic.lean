import ResilientHttp.Url.Host

/-! URLs in parts, and their text. -/
namespace ResilientHttp

/-- The path of a URL: a plain text that nothing can be relative to, or segments after slashes. -/
inductive Url.Path
  | plain (text : String)
  | segments (names : List String)
deriving Repr, DecidableEq

/-- A URL in its parts, each already escaped. -/
structure Url where
  scheme : String
  username : String := ""
  password : String := ""
  host : Option Url.Host := none
  port : Option Nat := none
  path : Url.Path
  query : Option String := none
  fragment : Option String := none
deriving Repr, DecidableEq

namespace Url

inductive SchemeKind
  | file
  | special
  | other
deriving Repr, DecidableEq

def SchemeKind.of (scheme : String) : SchemeKind :=
  if scheme = "file" then .file
  else if ["http", "https", "ws", "wss", "ftp"].contains scheme then .special
  else .other

/-- Backslashes count as slashes, and there is always a path. -/
def SchemeKind.isSpecial (k : SchemeKind) : Bool := k ≠ .other

def defaultPort? : String → Option Nat
  | "http" | "ws" => some 80
  | "https" | "wss" => some 443
  | "ftp" => some 21
  | _ => none

def Path.text : Path → String
  | .plain text => text
  | .segments names => String.join (names.map ("/" ++ ·))

def userInfoText (u : Url) : String :=
  if u.username.isEmpty && u.password.isEmpty then ""
  else u.username ++ (if u.password.isEmpty then "" else ":" ++ u.password) ++ "@"

/-- A path that would read as a host without a dot in front. -/
def Path.needsDot : Path → Bool
  | .segments ("" :: _ :: _) => true
  | _ => false

def authorityText (u : Url) : String :=
  match u.host with
  | none => if u.path.needsDot then "/." else ""
  | some h => "//" ++ u.userInfoText ++ h.text ++ (u.port.map fun p => ":" ++ toString p).getD ""

def text (u : Url) : String :=
  u.scheme ++ ":" ++ u.authorityText ++ u.path.text ++ (u.query.map ("?" ++ ·)).getD "" ++
    (u.fragment.map ("#" ++ ·)).getD ""

end Url
end ResilientHttp
