import NodeGateway.Url.Basic

/-!
# Paths of URLs

How the path of a URL is divided and resolved. Slashes divide it; a segment `.` stands for its
directory and `..` for the directory above, also in their encoded spellings. The name of a **drive**
is a letter with a colon or a bar: no `..` leaves a segment that begins with one.

The path of a local file begins with a single slash, and a drive at its front is written with a
colon.

## Main definitions

* `Url.resolveFrom`, on segments;
* `Url.readPath`, and for local files `Url.readFileSegments` and `Url.drive?`.
-/

namespace NodeGateway.Url

/-- Whether a segment stands for its directory. -/
def isSingleDot (segment : List Char) : Bool :=
  [".", "%2e"].contains (String.ofList (segment.map Char.toLower))

/-- Whether a segment stands for the directory above. -/
def isDoubleDot (segment : List Char) : Bool :=
  ["..", "%2e.", ".%2e", "%2e%2e"].contains (String.ofList (segment.map Char.toLower))

/-- Whether a text is the name of a **drive**: a letter and a colon, or a bar in its place. -/
def isDrive : List Char → Bool
  | [letter, mark] => letter.isAlpha && (mark = ':' || mark = '|')
  | _ => false

/-- Whether a segment begins with the name of a drive, as the segment itself or in front of a
slash. -/
def startsWithDrive (segment : List Char) : Bool :=
  isDrive (segment.take 2) && (segment.drop 2).head?.all fun c => c = '/' || c = '\\'

/-- The segments of the directory above. A segment that begins with the name of a drive is never
left. -/
def above (taken : List String) : List String :=
  if taken.getLast?.any fun segment => startsWithDrive segment.toList then taken
  else taken.dropLast

/-- Resolves segments behind those already taken. Where the last one stands for a directory, an
empty segment says so. -/
def resolveFrom (taken : List String) : List (List Char) → List String
  | [] => taken
  | segment :: rest =>
    let closing := if rest.isEmpty then [""] else []
    if isDoubleDot segment then resolveFrom (above taken ++ closing) rest
    else if isSingleDot segment then resolveFrom (taken ++ closing) rest
    else resolveFrom (taken ++ [String.ofList segment]) rest

/-- The text in front of a query or a fragment. -/
def beforeQuery (text : List Char) : List Char := text.takeWhile fun c => c != '?' && c != '#'

/-- The segments of a path that begins behind its first slash. -/
def readSegments (special : Bool) (text : List Char) : List String :=
  let text := beforeQuery text
  let slashes := if special then text.map fun c => if c = '\\' then '/' else c else text
  resolveFrom [] (Text.splitAt '/' (Percent.encode Percent.inPath slashes))

/-- The **path** behind an authority. A special scheme always has one. -/
def readPath (special : Bool) (text : List Char) : UrlPath :=
  match beforeQuery text with
  | [] => .segments (if special then [""] else [])
  | c :: rest =>
    if c = '/' || (special && c = '\\') then .segments (readSegments special rest)
    else .segments (readSegments special (c :: rest))

/-- The segments of the path of a local file, which may begin with a slash. -/
def readFileSegments (text : List Char) : List String :=
  readSegments true (if text.head?.any fun c => c = '/' || c = '\\' then text.drop 1 else text)

/-- The name of the drive at the front of a path, written with a colon. -/
def drive? (segments : List String) : Option String := do
  let first ← segments.head?
  guard (isDrive first.toList)
  return String.ofList (first.toList.take 1 ++ [':'])

/-- The segments without empty ones at their front; the last one always stays. -/
def dropEmpty (segments : List String) : List String :=
  match segments.dropWhile (·.isEmpty) with
  | [] => [""]
  | segments => segments

end NodeGateway.Url
