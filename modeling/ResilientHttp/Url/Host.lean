import ResilientHttp.Text.Utf8
import ResilientHttp.Url.Address
import ResilientHttp.Url.Folding
import ResilientHttp.Url.Percent
import ResilientHttp.Url.Punycode

/-! Hosts of URLs, and the faults that a URL can have. -/
namespace ResilientHttp.Url
open Text

inductive Fault
  | emptyHost
  | badDomain
  | badPort
  | badIpv4
  | badIpv6
  | badDomainCharacter
  | relativeWithoutBase
  | relativeWithOpaqueBase
deriving Repr, DecidableEq

def Fault.message : Fault → String
  | .emptyHost => "empty host"
  | .badDomain => "invalid international domain name"
  | .badPort => "invalid port number"
  | .badIpv4 => "invalid IPv4 address"
  | .badIpv6 => "invalid IPv6 address"
  | .badDomainCharacter => "invalid domain character"
  | .relativeWithoutBase => "relative URL without a base"
  | .relativeWithOpaqueBase => "relative URL with a cannot-be-a-base base"

inductive Host
  | domain (name : String)
  | ipv4 (address : Nat)
  | ipv6 (pieces : List Nat)
deriving Repr, DecidableEq

def Host.text : Host → String
  | .domain name => name
  | .ipv4 a => ipv4Text a
  | .ipv6 ps => "[" ++ ipv6Text ps ++ "]"

/-- A character that no domain may hold. -/
def isForbiddenInDomain (c : Char) : Bool :=
  c.toNat ≤ 0x20 || c.toNat = 0x7F || "%#/:<>?@[\\]^|".toList.contains c

/-- A label outside ASCII can be written: it shows, and does not start by joining something. -/
def isSoundLabel (label : List Char) : Bool :=
  label.all (fun c => c.toNat < 0x80 || isPrintable c || extendsGrapheme c) &&
    (label.head?.all fun c => !extendsGrapheme c)

/-- A label in ASCII: as it is, checked if it is a code already, or as a code. -/
def labelToAscii? (label : List Char) : Option (List Char) :=
  if label.all fun c => c.toNat < 0x80 then
    match label with
    | 'x' :: 'n' :: '-' :: '-' :: code => do
      let decoded ← Punycode.decode? code
      guard (decoded.any (fun c => 0x80 ≤ c.toNat) && isSoundLabel decoded &&
        decoded.flatMap foldChar = decoded)
      return label
    | _ => some label
  else if isSoundLabel label then some (['x', 'n', '-', '-'] ++ Punycode.encode label)
  else none

def domainToAscii? (cs : List Char) : Option (List Char) := do
  let bytes := unescape (String.ofList cs).toUTF8.data.toList
  let text ← (Utf8.decode ⟨bytes.toArray⟩).toOption
  let labels ← (pieces (· = '.') (text.toList.flatMap foldChar)).mapM labelToAscii?
  let domain := ['.'].intercalate labels
  guard (domain.all fun c => !isForbiddenInDomain c)
  return domain

def bracketed (cs : List Char) : Except Fault Host :=
  match cs.getLast? with
  | some ']' => match ipv6? (cs.drop 1).dropLast with
    | some ps => .ok (.ipv6 ps)
    | none => .error .badIpv6
  | _ => .error .badIpv6

/-- The host of a URL whose scheme is known to name hosts. -/
def Host.parse (cs : List Char) : Except Fault Host :=
  if cs.head? = some '[' then bracketed cs
  else match domainToAscii? cs with
    | none => .error .badDomain
    | some name =>
      if name.isEmpty then .error .emptyHost
      else if endsInNumber name then
        match ipv4? name with
        | some a => .ok (.ipv4 a)
        | none => .error .badIpv4
      else .ok (.domain (String.ofList name))

def Host.parseOpaque (cs : List Char) : Except Fault Host :=
  if cs.head? = some '[' then bracketed cs
  else if cs.any fun c => c.toNat = 0 || "\t\n\r #/:<>?@[\\]^|".toList.contains c then
    .error .badDomainCharacter
  else .ok (.domain (String.ofList (escape controlSet cs)))

end ResilientHttp.Url
