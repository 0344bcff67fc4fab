import NodeGateway.Url.Host

/-!
# URLs

A URL in its parts, and its one written form. A few **special** schemes always have a host, and take
a backslash for a slash.

## Main definitions

* `Url`, and `Url.text`, its written form;
* `Url.isSpecial`, and the port that goes with a special scheme;
* `Url.appendQuery`, which adds the pairs of a form to the query.
-/

namespace NodeGateway

/-- Who is addressed: an encoded name and password with `@` behind it, a host and a port. -/
structure Authority where
  userinfo : String
  host : Host
  port : Option Nat
  deriving DecidableEq, Repr

/-- The **path** of a URL: segments, or a text that is not divided. -/
inductive UrlPath where
  | segments (segments : List String)
  | undivided (text : String)
  deriving DecidableEq, Repr

/-- A **URL**. -/
structure Url where
  scheme : String
  authority : Option Authority
  path : UrlPath
  query : Option String
  fragment : Option String
  deriving DecidableEq, Repr

namespace Authority

/-- The written form of an authority. -/
def text (a : Authority) : String :=
  a.userinfo ++ a.host.text ++ (match a.port with | some n => ":" ++ toString n | none => "")

end Authority

namespace UrlPath

/-- The written form of a path. A path without an authority in front of it may not begin with two
slashes. -/
def text (hasAuthority : Bool) : UrlPath → String
  | undivided written => written
  | segments parts =>
    let written := String.join (parts.map ("/" ++ ·))
    if !hasAuthority && 1 < parts.length && parts.head? = some "" then "/." ++ written
    else written

end UrlPath

namespace Url

/-- The **written form** of a URL. -/
def text (url : Url) : String :=
  url.scheme ++ ":"
    ++ (match url.authority with | some a => "//" ++ a.text | none => "")
    ++ url.path.text url.authority.isSome
    ++ (match url.query with | some q => "?" ++ q | none => "")
    ++ (match url.fragment with | some f => "#" ++ f | none => "")

/-- The port that goes with a special scheme. -/
def defaultPort? : String → Option Nat
  | "http" | "ws" => some 80
  | "https" | "wss" => some 443
  | "ftp" => some 21
  | _ => none

/-- Whether a scheme is special. -/
def isSpecial (scheme : String) : Bool := (defaultPort? scheme).isSome || scheme = "file"

/-- The URL with the pairs of a form added to its query. -/
def appendQuery (pairs : List (String × String)) (url : Url) : Url :=
  let written := pairs.map fun (name, value) =>
    String.ofList (Percent.encodeForm name.toList ++ '=' :: Percent.encodeForm value.toList)
  let added := String.intercalate "&" written
  { url with query := some (match url.query with
      | some q => if q.isEmpty then added else q ++ "&" ++ added
      | none => added) }

/-- The text without the slashes at its end. -/
def trimSlashes (text : String) : String :=
  String.ofList (text.toList.reverse.dropWhile (· = '/')).reverse

/-- The host as it is written, empty without one. -/
def hostText (url : Url) : String :=
  match url.authority with
  | some a => a.host.text
  | none => ""

end Url

end NodeGateway
