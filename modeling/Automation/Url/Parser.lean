import Automation.Url.Basic

/-!
Reading URLs: scheme, authority, path, query and fragment, one after the other. Special schemes take
backslashes for slashes and any number of them in front of the authority.
-/
namespace Automation.Url

/-- The text without outer controls and blanks, and without tabs and line ends. -/
def cleaned (text : String) : List Char :=
  let isOuter (c : Char) : Bool := c.toNat ≤ 32
  (((text.toList.dropWhile isOuter).reverse.dropWhile isOuter).reverse).filter fun c =>
    !(c == '\t' || c == '\n' || c == '\r')

def isSchemeChar (c : Char) : Bool := c.isAlphanum || c == '+' || c == '-' || c == '.'

/-- A scheme in lower case and what stands behind its colon. -/
def scheme? (cs : List Char) : Option (String × List Char) :=
  if !cs.head?.any Char.isAlpha then none
  else match cs.dropWhile isSchemeChar with
    | ':' :: rest => some (String.ofList ((cs.takeWhile isSchemeChar).map Char.toLower), rest)
    | _ => none

def isSlash (special : Bool) (c : Char) : Bool := c == '/' || (special && c == '\\')

def endsPath (c : Char) : Bool := c == '?' || c == '#'

/-- Where the authority ends. -/
def endsAuthority (special : Bool) (c : Char) : Bool := isSlash special c || endsPath c

private def isDoubleDot (segment : List Char) : Bool :=
  [['.', '.'], ['.', '%', '2', 'e'], ['%', '2', 'e', '.'],
    ['%', '2', 'e', '%', '2', 'e']].contains (segment.map Char.toLower)

private def isSingleDot (segment : List Char) : Bool :=
  [['.'], ['%', '2', 'e']].contains (segment.map Char.toLower)

/-- Adds a segment to those before it, last first; dots go up or stay. -/
private def pushSegment (before : List String) (segment : List Char) (last : Bool) : List String :=
  if isDoubleDot segment then if last then "" :: before.tail else before.tail
  else if isSingleDot segment then if last then "" :: before else before
  else String.ofList (Percent.encode Percent.isPathEscape segment) :: before

/-- Reads segments; `segment` holds the current one, last character first. -/
private def readSegments (special : Bool) :
    List Char → List String → List Char → List String
  | [], before, segment => (pushSegment before segment.reverse true).reverse
  | c :: rest, before, segment =>
    if isSlash special c then
      readSegments special rest (pushSegment before segment.reverse false) []
    else readSegments special rest before (c :: segment)

/-- A path that ends before a query or fragment. A special scheme always has one. -/
def segmentsOf (special : Bool) (cs : List Char) : List String :=
  match cs with
  | [] => if special then [""] else []
  | c :: rest => readSegments special (if isSlash special c then rest else c :: rest) [] []

/-- Query and fragment behind a path. -/
def withQueryAndFragment (url : Url) (cs : List Char) : Url :=
  let escapes :=
    if isSpecial url.scheme then Percent.isSpecialQueryEscape else Percent.isQueryEscape
  let fragmentOf (cs : List Char) : Option String := match cs with
    | '#' :: rest => some (String.ofList (Percent.encode Percent.isFragmentEscape rest))
    | _ => none
  match cs with
  | '?' :: rest =>
    let query := rest.takeWhile (· != '#')
    { url with
      query := some (String.ofList (Percent.encode escapes query))
      fragment := fragmentOf (rest.dropWhile (· != '#')) }
  | cs => { url with fragment := fragmentOf cs }

/-- Path, query and fragment. -/
def withRest (url : Url) (cs : List Char) : Url :=
  let path := cs.takeWhile (!endsPath ·)
  { url with path := .segments (segmentsOf (isSpecial url.scheme) path) }.withQueryAndFragment
    (cs.dropWhile (!endsPath ·))

/-- Length of a host: up to a colon outside of brackets. -/
def hostLength : Bool → List Char → Nat
  | _, [] => 0
  | inside, c :: rest =>
    if c = ':' ∧ !inside then 0
    else hostLength (if c = '[' then true else if c = ']' then false else inside) rest + 1

/-- A port and what stands behind it; the default port of the scheme is as good as none. -/
def portOf (scheme : String) (cs : List Char) : Except UrlError (Option Nat × List Char) :=
  let digits := cs.takeWhile Char.isDigit
  let rest := cs.dropWhile Char.isDigit
  let n := digits.foldl (fun n c => n * 10 + (c.toNat - 48)) 0
  if 65535 < n || !(rest.isEmpty || rest.head? == some '\\') then .error .invalidPort
  else .ok (if digits.isEmpty || defaultPort? scheme == some n then none else some n, rest)

/-- User name and password in front of the last at sign, and the text behind it. -/
def credentialsOf (cs : List Char) : List Char × List Char × List Char :=
  let behind := (cs.reverse.takeWhile (· != '@')).reverse
  if behind.length = cs.length then ([], [], cs)
  else
    let userinfo := cs.take (cs.length - behind.length - 1)
    let name := userinfo.takeWhile (· != ':')
    (name, (userinfo.drop (name.length + 1)), behind)

/-- An authority and all behind it. -/
def withAuthority (scheme : String) (cs : List Char) : Except UrlError Url := do
  let special := isSpecial scheme
  let authority := cs.takeWhile (!endsAuthority special ·)
  let rest := cs.dropWhile (!endsAuthority special ·)
  let (name, password, address) := credentialsOf authority
  let encoded (cs : List Char) := String.ofList (Percent.encode Percent.isUserinfoEscape cs)
  if authority.head? = some '@' ∧ authority.length = 1 ∧ !rest.isEmpty then throw .emptyHost
  let length := hostLength false address
  let hostText := address.take length
  if hostText.isEmpty && (special || !name.isEmpty || !password.isEmpty) then throw .emptyHost
  let host ← if special then Host.parse hostText else Host.parseBare hostText
  let behind := address.drop length
  if hostText.isEmpty && !behind.isEmpty then throw .emptyHost
  let (port, behind) ← match behind with
    | ':' :: rest => portOf scheme rest
    | _ => .ok (none, [])
  let url : Url :=
    { scheme, username := encoded name, password := encoded password, host := some host, port
      path := .segments [] }
  return url.withRest (behind ++ rest)

/-- A file: its host may be missing, and the local host is as good as none. -/
def file (cs : List Char) : Except UrlError Url := do
  let url : Url := { scheme := "file", host := some (.domain ""), path := .segments [] }
  let slash (c : Char) := isSlash true c
  match cs with
  | a :: b :: rest =>
    if slash a && slash b then
      let hostText := rest.takeWhile (!endsAuthority true ·)
      let behind := rest.dropWhile (!endsAuthority true ·)
      if hostText.isEmpty then return url.withRest behind
      match ← Host.parse hostText with
      | .domain "localhost" => return url.withRest behind
      | host => return { url with host := some host }.withRest behind
    else return url.withRest cs
  | cs => return url.withRest cs

/-- A path without a slash in front. -/
def rootless (scheme : String) (cs : List Char) : Url :=
  let path := cs.takeWhile (!endsPath ·)
  let url : Url :=
    { scheme, path := .rootless (String.ofList (Percent.encode Percent.isControl path)) }
  url.withQueryAndFragment (cs.dropWhile (!endsPath ·))

/-- The URL that a text stands for on its own. -/
def parse (text : String) : Except UrlError Url :=
  match scheme? (cleaned text) with
  | none => .error .relativeWithoutBase
  | some (scheme, rest) =>
    if scheme = "file" then file rest
    else if isSpecial scheme then withAuthority scheme (rest.dropWhile (isSlash true))
    else match rest with
      | '/' :: '/' :: rest => withAuthority scheme rest
      | '/' :: rest =>
        .ok ({ scheme, path := .segments [] : Url }.withRest ('/' :: rest))
      | rest => .ok (rootless scheme rest)

end Automation.Url
