import NodeGateway.Url.Path

/-!
# Reading URLs

How a text is read as a URL, which is done as the URL standard says: blanks around the text are
dropped, scheme and host get small letters, the port that goes with the scheme is left out, the path
is resolved, and every part is percent-encoded. Local files have rules of their own: their host may
be missing, and a drive in the path takes the place of any host.

## Main definitions

* `Url.readAuthority`, for what stands behind two slashes;
* `Url.readFile`, the same for local files;
* `Url.parse`.
-/

namespace NodeGateway.Url

/-- The text without the blanks around it and without line breaks and tabs. -/
def cleaned (text : String) : List Char :=
  let isOuter := fun c : Char => c.toNat ≤ 0x20
  let inner := ((text.toList.dropWhile isOuter).reverse.dropWhile isOuter).reverse
  inner.filter fun c => c != '\t' && c != '\n' && c != '\r'

/-- Reads the rest of a scheme up to its colon, in small letters. -/
def schemeRest? : List Char → Option (List Char × List Char)
  | [] => none
  | ':' :: rest => some ([], rest)
  | c :: rest =>
    if c.isAlphanum || ['+', '-', '.'].contains c then
      (schemeRest? rest).map fun (scheme, rest) => (c.toLower :: scheme, rest)
    else none

/-- Reads a scheme, which begins with a letter. -/
def scheme? : List Char → Option (String × List Char)
  | c :: rest =>
    if c.isAlpha then (schemeRest? (c :: rest)).map fun (s, rest) => (String.ofList s, rest)
    else none
  | [] => none

/-- Whether a character ends the authority. -/
def endsAuthority (special : Bool) (c : Char) : Bool :=
  c = '/' || c = '?' || c = '#' || (special && c = '\\')

/-- Splits a text at the last `@`, if there is one. -/
def splitLastAt (text : List Char) : Option (List Char × List Char) :=
  match text.reverse.dropWhile (· != '@') with
  | [] => none
  | _ :: before => some (before.reverse, (text.reverse.takeWhile (· != '@')).reverse)

/-- Encodes a name and a password. An empty password has no colon. -/
def encodeUserinfo (text : List Char) : String :=
  let encode := Percent.encode Percent.inUserinfo
  let name := encode (text.takeWhile (· != ':'))
  let password := encode ((text.dropWhile (· != ':')).drop 1)
  let shown := name ++ (if password.isEmpty then [] else ':' :: password)
  String.ofList (if shown.isEmpty then [] else shown ++ ['@'])

/-- Reads a name and a password, if there are any, and returns the text behind them. A mere `@` may
stand at the end of the URL or in front of a host. -/
def readUserinfo (special : Bool) (text : List Char) : Except UrlError (String × List Char) :=
  match splitLastAt (text.takeWhile fun c => !endsAuthority special c) with
  | none => .ok ("", text)
  | some (userinfo, _) =>
    let rest := text.drop (userinfo.length + 1)
    if userinfo.isEmpty && rest.head?.any (endsAuthority special) then .error .emptyHost
    else .ok (encodeUserinfo userinfo, rest)

/-- The text of a host, and what stands behind it. A colon in brackets belongs to the host. -/
def splitHost (special inBrackets : Bool) : List Char → List Char × List Char
  | [] => ([], [])
  | c :: rest =>
    if (c = ':' && !inBrackets) || endsAuthority special c then ([], c :: rest)
    else
      let inside := if c = '[' then true else if c = ']' then false else inBrackets
      let (host, rest) := splitHost special inside rest
      (c :: host, rest)

/-- Reads a port behind a colon, if there is one, and returns the text behind it. The port may be
empty. -/
def readPort (scheme : String) : List Char → Except UrlError (Option Nat × List Char)
  | ':' :: text =>
    let digits := text.takeWhile Numeral.isDigit
    let rest := text.drop digits.length
    if !rest.head?.all (endsAuthority true) then .error .invalidPort
    else if digits.isEmpty then .ok (none, rest)
    else match (Numeral.natural? digits).filter (· < 65536) with
      | some n => .ok (if some n = defaultPort? scheme then none else some n, rest)
      | none => .error .invalidPort
  | text => .ok (none, text)

/-- Reads an **authority**, and returns the text behind it. Only where a scheme is not special may
there be no host, and then neither a name and password nor a port. -/
def readAuthority (scheme : String) (text : List Char) :
    Except UrlError (Authority × List Char) := do
  let special := isSpecial scheme
  let (userinfo, text) ← readUserinfo special text
  let (hostText, rest) := splitHost special false text
  let host ← if special then Host.parse hostText else Host.parsePlain hostText
  if host = .name "" && (rest.head? = some ':' || !userinfo.isEmpty) then throw .emptyHost
  let (port, rest) ← readPort scheme rest
  return (⟨userinfo, host, port⟩, rest)

/-- Reads the host of a local file, where `localhost` stands for none. -/
def readFileHost (text : List Char) : Except UrlError Host := do
  if text.isEmpty then return .name ""
  let host ← Host.parse text
  return if host = .name "localhost" then .name "" else host

/-- A local file. A drive has no host. -/
def ofFile (host : Host) (segments : List String) : Option Authority × UrlPath :=
  match drive? segments with
  | some drive => (some ⟨"", .name "", none⟩, .segments (drive :: segments.drop 1))
  | none => (some ⟨"", host, none⟩, .segments (dropEmpty segments))

/-- Reads the host and the path of a local file behind two slashes, where a drive may stand in the
place of the host. -/
def readFile (text : List Char) : Except UrlError (Option Authority × UrlPath) := do
  let hostText := text.takeWhile fun c => !endsAuthority true c
  if isDrive hostText then return ofFile (.name "") (readFileSegments text)
  let host ← readFileHost hostText
  return ofFile host (readFileSegments (text.drop hostText.length))

/-- The part in front of a separator and the part behind it, if there is one. -/
def cut (separator : Char) (text : List Char) : List Char × Option (List Char) :=
  match text.dropWhile (· != separator) with
  | [] => (text, none)
  | _ :: behind => (text.takeWhile (· != separator), some behind)

/-- Puts a URL together from what stands in front of its query, and the query and fragment. -/
def finish (scheme : String) (authority : Option Authority) (path : UrlPath)
    (query fragment : Option (List Char)) : Url where
  scheme := scheme
  authority := authority
  path := path
  query := query.map fun q => String.ofList (Percent.encode (Percent.inQuery (isSpecial scheme)) q)
  fragment := fragment.map fun f => String.ofList (Percent.encode Percent.inFragment f)

/-- Reads the authority and the path behind two slashes. -/
def readHierarchy (scheme : String) (text : List Char) :
    Except UrlError (Option Authority × UrlPath) := do
  let (authority, rest) ← readAuthority scheme text
  return (some authority, readPath (isSpecial scheme) rest)

/-- Reads what stands between the scheme and a query or a fragment. -/
def readBody (scheme : String) (text : List Char) :
    Except UrlError (Option Authority × UrlPath) :=
  let isSlash := fun c => c = '/' || c = '\\'
  if scheme = "file" then
    match text with
    | a :: b :: rest =>
      if isSlash a && isSlash b then readFile rest
      else .ok (ofFile (.name "") (readFileSegments text))
    | _ => .ok (ofFile (.name "") (readFileSegments text))
  else if isSpecial scheme then readHierarchy scheme (text.dropWhile isSlash)
  else match text with
    | '/' :: '/' :: rest => readHierarchy scheme rest
    | '/' :: rest => .ok (none, .segments (readSegments false rest))
    | rest =>
      .ok (none, .undivided (String.ofList (Percent.encode Percent.inEvery (beforeQuery rest))))

/-- Reads a **URL**. -/
def parse (text : String) : Except UrlError Url := do
  match scheme? (cleaned text) with
  | none => throw .relative
  | some (scheme, rest) =>
    let (authority, path) ← readBody scheme rest
    let (whole, fragment) := cut '#' rest
    let query := (cut '?' whole).2
    return finish scheme authority path query fragment

end NodeGateway.Url
