import ResilientHttp.Text.Integer

/-! Percent escapes: which bytes of a URL's parts are written as `%XX`, and back. -/
namespace ResilientHttp.Url

/-- A byte as a percent sign and two upper-case digits. -/
def escapeByte (b : UInt8) : List Char :=
  ['%', Text.upperHexDigit (b.toNat / 16), Text.upperHexDigit (b.toNat % 16)]

abbrev EscapeSet := UInt8 → Bool

def isOneOf (marks : String) (b : UInt8) : Bool := marks.toList.any fun c => c.toNat = b.toNat

def controlSet : EscapeSet := fun b => b < 0x20 || 0x7F ≤ b

def fragmentSet : EscapeSet := fun b => controlSet b || isOneOf " \"<>\x60" b

def pathSet : EscapeSet := fun b => fragmentSet b || isOneOf "#?\x7b\x7d" b

def userInfoSet : EscapeSet := fun b => pathSet b || isOneOf "/:;=@[\\]^|" b

def querySet : EscapeSet := fun b => controlSet b || isOneOf " \"#<>" b

/-- In the query of a URL with a special scheme the apostrophe is escaped too. -/
def specialQuerySet : EscapeSet := fun b => querySet b || b == 0x27

def escapeChar (set : EscapeSet) (c : Char) : List Char :=
  (c.toString.toUTF8.data.toList.map fun b =>
    if set b then escapeByte b else [Char.ofNat b.toNat]).flatten

def escape (set : EscapeSet) (cs : List Char) : List Char := cs.flatMap (escapeChar set)

/-- Undoes percent escapes; a percent sign without two digits behind it stays. -/
def unescape : List UInt8 → List UInt8
  | 0x25 :: h :: l :: rest =>
    match Text.hexValue? (Char.ofNat h.toNat), Text.hexValue? (Char.ofNat l.toNat) with
    | some x, some y => (16 * x + y).toUInt8 :: unescape rest
    | _, _ => 0x25 :: unescape (h :: l :: rest)
  | b :: rest => b :: unescape rest
  | [] => []

end ResilientHttp.Url
