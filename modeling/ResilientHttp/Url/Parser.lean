import ResilientHttp.Url.Basic

/-! Reading URLs, alone or relative to another one. -/
namespace ResilientHttp.Url

/-- Drops controls and spaces at both ends, and tabs and line ends anywhere. -/
def cleaned (s : String) : List Char :=
  let outside (c : Char) : Bool := c.toNat ≤ 0x20
  let cs := ((s.toList.dropWhile outside).reverse.dropWhile outside).reverse
  cs.filter fun c => !(c = '\t' || c = '\n' || c = '\r')

def splitScheme? (cs : List Char) : Option (String × List Char) :=
  let isSchemeChar (c : Char) := c.isAlphanum || c = '+' || c = '-' || c = '.'
  match cs.head?, cs.dropWhile isSchemeChar with
  | some first, ':' :: rest =>
    if first.isAlpha then
      some (String.ofList ((cs.takeWhile isSchemeChar).map Char.toLower), rest)
    else none
  | _, _ => none

def isSlash (k : SchemeKind) (c : Char) : Bool := c = '/' || (k.isSpecial && c = '\\')

def isDriveLetter : List Char → Bool
  | [c, m] => c.isAlpha && (m = ':' || m = '|')
  | _ => false

def isNormalDriveLetter (s : String) : Bool :=
  match s.toList with
  | [c, ':'] => c.isAlpha
  | _ => false

/-- The text goes on with a drive letter as a whole segment. -/
def startsWithDriveLetter : List Char → Bool
  | c :: m :: rest => isDriveLetter [c, m] &&
      (match rest with | [] => true | d :: _ => "/\\?#".toList.contains d)
  | _ => false

/-- Takes the last segment away, but for a drive letter. -/
def shorten (k : SchemeKind) (names : List String) : List String :=
  match k, names.getLast? with
  | .file, some last => if isNormalDriveLetter last then names else names.dropLast
  | _, _ => names.dropLast

/-- A segment of one or two dots, some perhaps escaped, and their number. -/
def dots? (segment : String) : Option Nat :=
  match String.ofList (segment.toList.map Char.toLower) with
  | "." | "%2e" => some 1
  | ".." | ".%2e" | "%2e." | "%2e%2e" => some 2
  | _ => none

/-- Adds a segment that ends at a slash or at the end of the path; dots move up or stay. -/
def addSegment (k : SchemeKind) (names : List String) (segment : List Char) (atSlash : Bool) :
    List String :=
  let name := String.ofList segment
  match dots? name with
  | some 1 => if atSlash then names else names ++ [""]
  | some _ => if atSlash then shorten k names else shorten k names ++ [""]
  | none =>
    if k = .file && names.isEmpty && isDriveLetter segment then
      [String.ofList (segment.take 1 ++ [':'])]
    else names ++ [name]

/-- Reads segments up to a query or fragment; `segment` is the one being read, last first. -/
def walkPath (k : SchemeKind) (names : List String) (segment : List Char) :
    List Char → List String × List Char
  | [] => (addSegment k names segment.reverse false, [])
  | c :: rest =>
    if isSlash k c then walkPath k (addSegment k names segment.reverse true) [] rest
    else if c = '?' || c = '#' then (addSegment k names segment.reverse false, c :: rest)
    else walkPath k names ((escapeChar pathSet c).reverse ++ segment) rest

/-- Reads the path behind the segments `names`; a file's path has no empty segments in front. -/
def readPath (k : SchemeKind) (names : List String) (cs : List Char) : Path × List Char :=
  let (read, rest) := walkPath k names [] cs
  let kept :=
    if k = .file then
      match read.dropWhile (·.isEmpty) with
      | [] => [""]
      | names => names
    else read
  (.segments kept, rest)

def readPathStart (k : SchemeKind) (cs : List Char) : Path × List Char :=
  match cs with
  | [] => if k.isSpecial then (.segments [""], []) else (.segments [], [])
  | c :: rest =>
    if isSlash k c then readPath k [] rest
    else if !k.isSpecial && (c = '?' || c = '#') then (.segments [], cs)
    else readPath k [] cs

def withTail (u : Url) (cs : List Char) : Url :=
  let set := if (SchemeKind.of u.scheme).isSpecial then specialQuerySet else querySet
  let fragmentOf (cs : List Char) : Option String :=
    match cs with
    | '#' :: rest => some (String.ofList (escape fragmentSet rest))
    | _ => none
  match cs with
  | '?' :: rest =>
    { u with
      query := some (String.ofList (escape set (rest.takeWhile (· ≠ '#'))))
      fragment := fragmentOf (rest.dropWhile (· ≠ '#')) }
  | _ => { u with fragment := fragmentOf cs }

/-- The part before the path: everything up to a slash, a query or a fragment. -/
def isAuthorityEnd (k : SchemeKind) (c : Char) : Bool := isSlash k c || c = '?' || c = '#'

/-- User name, password and the rest after the last at sign; the rest must name a host. -/
def splitUserInfo (k : SchemeKind) (cs : List Char) :
    Except Fault (String × String × List Char) :=
  let authority := cs.takeWhile (!isAuthorityEnd k ·)
  if !authority.contains '@' then .ok ("", "", cs)
  else
    let behind := (authority.reverse.takeWhile (· ≠ '@')).reverse
    let info := authority.take (authority.length - behind.length - 1)
    let rest := cs.drop (info.length + 1)
    if info.isEmpty then
      match rest with
      | c :: _ => if isAuthorityEnd k c then .error .emptyHost else .ok ("", "", rest)
      | [] => .ok ("", "", rest)
    else
      let text (part : List Char) := String.ofList (escape userInfoSet part)
      .ok (text (info.takeWhile (· ≠ ':')), text ((info.dropWhile (· ≠ ':')).drop 1), rest)

/-- The characters of a host: up to the end of the authority or to a colon outside brackets. -/
def hostLength (k : SchemeKind) : (inBrackets : Bool) → List Char → Nat
  | _, [] => 0
  | inside, c :: rest =>
    if (c = ':' && !inside) || isAuthorityEnd k c then 0
    else hostLength k (if c = '[' then true else if c = ']' then false else inside) rest + 1

/-- Reads digits up to the end of the authority; the port of the scheme is not kept. -/
def readPort (scheme : String) (cs : List Char) : Except Fault (Option Nat × List Char) :=
  let digits := cs.takeWhile Char.isDigit
  let rest := cs.dropWhile Char.isDigit
  let n := Text.digitsValue digits
  if 65535 < n then .error .badPort
  else if rest.head?.all fun c => "/\\?#".toList.contains c then
    .ok (if digits.isEmpty || defaultPort? scheme = some n then none else some n, rest)
  else .error .badPort

def readAuthority (scheme : String) (cs : List Char) : Except Fault Url := do
  let k := SchemeKind.of scheme
  let (username, password, rest) ← splitUserInfo k cs
  let length := hostLength k false rest
  let name := rest.take length
  let rest := rest.drop length
  let host ←
    if k.isSpecial then
      if name.isEmpty then .error .emptyHost else Host.parse name
    else Host.parseOpaque name
  let missing := host = .domain ""
  if missing && (rest.head? = some ':' || !username.isEmpty || !password.isEmpty) then
    .error .emptyHost
  let (port, rest) ← match rest with
    | ':' :: rest => readPort scheme rest
    | _ => .ok (none, rest)
  let (path, rest) := readPathStart k rest
  return withTail { scheme, username, password, host := some host, port, path } rest

/-- The host of a file URL; this machine goes without a name. -/
def fileHost (cs : List Char) : Except Fault (Option Host) :=
  if cs.isEmpty then .ok none
  else do
    let host ← Host.parse cs
    return if host = .domain "localhost" then none else some host

def localFile (path : Path) : Url := { scheme := "file", host := some (.domain ""), path }

def Path.names : Path → List String
  | .segments names => names
  | .plain _ => []

def readFile (base : Option Url) (cs : List Char) : Except Fault Url :=
  let isMark (c : Char) : Bool := c = '/' || c = '\\'
  match cs with
  | c :: d :: rest =>
    if isMark c && isMark d then do
      let name := rest.takeWhile fun c => !"/\\?#".toList.contains c
      if isDriveLetter name then
        let (path, tail) := readPath .file [] rest
        return withTail (localFile path) tail
      let host ← fileHost name
      let (path, tail) := readPathStart .file (rest.drop name.length)
      let drive := path.names.head?.any isNormalDriveLetter
      let url := localFile path
      return withTail { url with host := if drive then url.host else host.or url.host } tail
    else fromPath c (d :: rest)
  | [c] => fromPath c []
  | [] => match base with
    | some b => .ok { b with fragment := none }
    | none => .ok (localFile (.segments [""]))
where
  fromPath (c : Char) (rest : List Char) : Except Fault Url :=
    if c = '/' || c = '\\' then
      let drive := (base.bind fun b => b.path.names.head?).filter isNormalDriveLetter
      let keep := !startsWithDriveLetter rest
      let (path, tail) := readPath .file (if keep then drive.toList else []) rest
      let host := if keep && drive.isNone then base.bind Url.host else none
      .ok (withTail { localFile path with host := host.or (some (.domain "")) } tail)
    else match base with
      | none =>
        let (path, tail) := readPath .file [] (c :: rest)
        .ok (withTail (localFile path) tail)
      | some b =>
        if c = '?' then .ok (withTail { b with query := none, fragment := none } (c :: rest))
        else if c = '#' then .ok (withTail { b with fragment := none } (c :: rest))
        else if startsWithDriveLetter (c :: rest) then
          let (path, tail) := readPath .file [] (c :: rest)
          .ok (withTail (localFile path) tail)
        else
          let (path, tail) := readPath .file (shorten .file b.path.names) (c :: rest)
          .ok (withTail { b with path, query := none, fragment := none } tail)

def readRelative (base : Url) (cs : List Char) : Except Fault Url :=
  let k := SchemeKind.of base.scheme
  match cs with
  | [] => .ok { base with fragment := none }
  | '?' :: _ => .ok (withTail { base with query := none, fragment := none } cs)
  | '#' :: _ => .ok (withTail { base with fragment := none } cs)
  | c :: rest =>
    let slashes := (cs.takeWhile fun c => c = '/' || c = '\\').length
    if (c = '/' || c = '\\') && 2 ≤ slashes then
      match cs with
      | '/' :: '/' :: rest => readAuthority base.scheme rest
      | _ => readAuthority base.scheme (cs.drop slashes)
    else if c = '/' || c = '\\' then
      let (path, tail) := readPath k [] rest
      .ok (withTail { base with path, query := none, fragment := none } tail)
    else
      let (path, tail) := readPath k base.path.names.dropLast cs
      .ok (withTail { base with path, query := none, fragment := none } tail)

/-- Reads what follows a scheme that is neither a file's nor special. -/
def readOther (scheme : String) (cs : List Char) : Except Fault Url :=
  match cs with
  | '/' :: '/' :: rest => readAuthority scheme rest
  | '/' :: rest =>
    let (path, tail) := readPath .other [] rest
    .ok (withTail { scheme, path } tail)
  | _ =>
    let path := cs.takeWhile fun c => !(c = '?' || c = '#')
    .ok (withTail { scheme, path := .plain (String.ofList (escape controlSet path)) }
      (cs.drop path.length))

def parseWith (base : Option Url) (s : String) : Except Fault Url :=
  let cs := cleaned s
  match splitScheme? cs with
  | some (scheme, rest) =>
    match SchemeKind.of scheme with
    | .file => readFile (base.filter (·.scheme = "file")) rest
    | .special =>
      let isMark (c : Char) : Bool := c = '/' || c = '\\'
      let slashes := (rest.takeWhile isMark).length
      match base with
      | some b =>
        if slashes < 2 && b.scheme = scheme then readRelative b rest
        else readAuthority scheme (rest.drop slashes)
      | none => readAuthority scheme (rest.drop slashes)
    | .other => readOther scheme rest
  | none =>
    match base with
    | none => .error .relativeWithoutBase
    | some b =>
      match cs, b.path with
      | '#' :: _, _ => .ok (withTail { b with fragment := none } cs)
      | _, .plain _ => .error .relativeWithOpaqueBase
      | _, .segments _ => if b.scheme = "file" then readFile base cs else readRelative b cs

def parse (s : String) : Except Fault Url := parseWith none s

def join (base : Url) (s : String) : Except Fault Url := parseWith (some base) s

end ResilientHttp.Url
