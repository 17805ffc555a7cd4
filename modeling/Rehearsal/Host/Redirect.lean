import Rehearsal.Host.Client

/-!
# Redirects

An answer may say in an address where to go on. The address is taken below the host of the request
if it has a scheme and no host, and is joined with the address of the request if it is relative;
the fragment of the request goes on with it. Nothing is sent there, but it has to be an address that
a request could be made for.
-/

namespace Rehearsal

namespace Url

/-- The schemes of addresses that relative ones can be joined with. -/
def joinableSchemes : List String :=
  ["ftp", "http", "gopher", "nntp", "imap", "wais", "file", "https", "shttp", "mms", "prospero",
   "rtsp", "rtsps", "rtspu", "sftp", "svn", "svn+ssh", "ws", "wss"]

/-- A path seen from another one. A segment for the place above takes the segment before it away. -/
def joinedPath (base path : String) : String :=
  let segments :=
    if path.startsWith "/" then splitAt '/' path
    else
      let all := (splitAt '/' base).dropLast ++ splitAt '/' path
      all.take 1 ++ ((all.drop 1).dropLast.filter (!String.isEmpty ·)) ++
        (if all.length < 2 then [] else [all.getLastD ""])
  let step (kept : List String) (segment : String) : List String :=
    if segment = ".." then kept.drop 1 else if segment = "." then kept else segment :: kept
  let kept := segments.foldl step []
  let last := segments.getLastD ""
  let joined := "/".intercalate (if last = "." || last = ".." then "" :: kept else kept).reverse
  if joined.startsWith "/" then joined else "/" ++ joined

/-- An address without marks in front of an empty query or an empty fragment. -/
def withoutMarks (u : Url) : Url :=
  { u with query := u.query.filter (!String.isEmpty ·)
           fragment := u.fragment.filter (!String.isEmpty ·) }

/-- The text of a relative address seen from another one. -/
def joinedText (base relative : Url) : String :=
  if relative.text.isEmpty then base.text
  else if !joinableSchemes.contains base.scheme then relative.text
  else
    let within := { base with path := relative.path, query := relative.query
                              fragment := relative.fragment }
    let joined :=
      if !relative.authority.isEmpty then { relative with scheme := base.scheme }
      else if relative.path.isEmpty then
        { within with path := base.path, query := relative.withoutMarks.query.or base.query }
      else { within with path := joinedPath base.path relative.path }
    joined.withoutMarks.text

def join (base relative : Url) : Except UrlFailure Url := parse (base.joinedText relative)

/-- An address without a host below the given one, as its users write it. -/
def below (host : String) (u : Url) : Except UrlFailure Url := do
  u.checkParts
  let bracketed := if host.toList.contains ':' then "[" ++ host ++ "]" else host
  let host ← readHost bracketed.toList
  checkPath true true u.path
  return { u with host }

/-- The address with a fragment that takes the place of its own. -/
def withFragment (fragment : List Char) (u : Url) : Except UrlFailure Url := do
  let longest : Url := { u with fragment := some (String.ofList fragment) }
  longest.checkParts
  if let some (c, position) := control? fragment then throw (.partControl "fragment" c position)
  return { u with fragment := some (escape isFragmentPart fragment) }

/-- An address with a scheme and without a host, below the host of the request. -/
def hosted (asked location : Url) : Outcome Url :=
  if location.scheme.isEmpty then .ok location
  else do
    let _ ← location.shownHost
    if location.host.isEmpty then (below (← asked.shownHost) location).mapError .invalidUrl
    else return location

/-- A relative address as it is seen from the request. -/
def completed (asked location : Url) : Outcome Url :=
  if location.isAbsolute then .ok location else (asked.join location).mapError .invalidUrl

/-- An address with the fragment of the request, unless it has one of its own. -/
def tagged (asked target : Url) : Outcome Url :=
  match asked.fragment, target.fragment.getD "" with
  | some fragment, "" =>
    if fragment.isEmpty then .ok target
    else (target.withFragment (unescape fragment)).mapError .invalidUrl
  | _, _ => .ok target

/-- The address to go on with from a request. -/
def redirected (asked location : Url) : Outcome Url := do
  let location ← asked.hosted location
  let target ← asked.completed location
  asked.tagged target

end Url

namespace Response

/-- The header that says where to go on, if the status asks for that. -/
def location? (r : Response) : Option String :=
  match r.status.integer? with
  | some n =>
    if [301, 302, 303, 307, 308].contains n then
      (r.headers.find? (·.1 == "location")).map (·.2)
    else none
  | none => none

/-- An answer that leads elsewhere has to lead to an address for which a request could be made by a
client with the given cookies. -/
def checkRedirect (asked : Url) (cookies : List Cookie) (r : Response) : Outcome Unit := do
  match r.location?.map Url.parse with
  | none => return ()
  | some (.error f) =>
    let message := "Invalid URL in location header: " ++ f.message ++ "."
    throw (.transport ⟨.remoteProtocolError, message⟩)
  | some (.ok location) =>
    let target ← asked.redirected location
    target.checkNamed
    if !cookies.isEmpty then target.checkTyped

end Response

end Rehearsal
