import Rehearsal.Host.HostName
import Rehearsal.Number.Digits
import Rehearsal.Text.Blank
import Rehearsal.Text.Decimal
import Rehearsal.Text.Utf8

/-!
# Addresses

An address has a scheme, an authority, a path, a query and a fragment. Reading one gives its normal
form: scheme and host in lower case, no default port, no dot segments, and an escape for every
character that may not stand in its part.
-/

namespace Rehearsal

structure Url where
  scheme : String := ""
  userinfo : String := ""
  /-- The name or the number of the host, without brackets. -/
  host : String := ""
  port : Option Int := none
  path : String := ""
  query : Option String := none
  fragment : Option String := none
deriving DecidableEq, Repr

/-- Why a text is no address. -/
inductive UrlFailure where
  | tooLong
  | partTooLong (name : String)
  | control (c : Char) (position : Nat)
  /-- A control character in a part that was put into an address. -/
  | partControl (name : String) (c : Char) (position : Nat)
  | port (text : String)
  | ipv4 (host : String)
  | ipv6 (host : String)
  | hostName (host : String)
  /-- A path that starts without a slash behind an authority. -/
  | rootless
  | doubleSlash
  | colon
deriving DecidableEq, Repr

namespace UrlFailure

/-- A control character in a text, which is named with a comma or a blank in front. -/
def controlMessage (subject : String) (c : Char) (position : Nat) : String :=
  "Invalid non-printable ASCII character in URL" ++ subject ++ ", " ++
    Text.literal (String.singleton c) ++ " at position " ++ toString position ++ "."

def message : UrlFailure → String
  | tooLong => "URL too long"
  | partTooLong name => "URL component '" ++ name ++ "' too long"
  | control c position => controlMessage "" c position
  | partControl name c position => controlMessage (" " ++ name ++ " component") c position
  | port text => "Invalid port: " ++ Text.literal text
  | ipv4 host => "Invalid IPv4 address: " ++ Text.literal host
  | ipv6 host => "Invalid IPv6 address: " ++ Text.literal host
  | hostName host => "Invalid IDNA hostname: " ++ Text.literal host
  | rootless => "For absolute URLs, path must be empty or begin with '/'"
  | doubleSlash => "Relative URLs cannot have a path starting with '//'"
  | colon => "Relative URLs cannot have a path starting with ':'"

end UrlFailure

namespace Url

/-! ## Escapes -/

def isAsciiLetter (c : Char) : Bool :=
  decide (65 ≤ c.toNat) && decide (c.toNat ≤ 90) || decide (97 ≤ c.toNat) && decide (c.toNat ≤ 122)

def upperHexDigit (n : Nat) : Char := if n < 10 then Char.ofNat (48 + n) else Char.ofNat (55 + n)

/-- The bytes of a character by number. -/
def percent (c : Char) : List Char :=
  (Text.encodeChar c).flatMap fun b =>
    ['%', upperHexDigit (b.toNat / 16), upperHexDigit (b.toNat % 16)]

/-- Visible characters of ASCII except the given ones. -/
def visibleBut (excluded : List Char) (c : Char) : Bool :=
  decide (32 < c.toNat) && decide (c.toNat < 127) && !excluded.contains c

def isFragmentPart : Char → Bool := visibleBut ['"', '<', '>', Char.ofNat 96]

def isQueryPart : Char → Bool := visibleBut ['"', '#', '<', '>']

def isPathPart : Char → Bool :=
  visibleBut ['"', '#', '<', '>', '?', Char.ofNat 96, '\x7b', '\x7d']

def isUserPart (c : Char) : Bool :=
  isPathPart c && visibleBut ['/', ';', '=', '@', '[', '\\', ']', '^', '|'] c

def isHostPart : Char → Bool := visibleBut ['#', '/', ':', '<', '>', '?', '@', '[', ']', '^']

/-- Escapes what may not stand in a part of an address. -/
def escape (allowed : Char → Bool) (cs : List Char) : String :=
  String.ofList (cs.flatMap fun c => if allowed c then [c] else percent c)

def hexValue? (c : Char) : Option Nat :=
  let n := c.toNat
  if 48 ≤ n ∧ n ≤ 57 then some (n - 48)
  else if 65 ≤ n ∧ n ≤ 70 then some (n - 55)
  else if 97 ≤ n ∧ n ≤ 102 then some (n - 87)
  else none

/-- The bytes of a text, with those for which an escape stands. -/
def unescapedBytes : List Char → Text.Bytes
  | '%' :: a :: b :: rest =>
    match hexValue? a, hexValue? b with
    | some x, some y => UInt8.ofNat (16 * x + y) :: unescapedBytes rest
    | _, _ => 37 :: unescapedBytes (a :: b :: rest)
  | c :: rest => Text.encodeChar c ++ unescapedBytes rest
  | [] => []

/-- The characters for which a text with escapes stands. -/
def unescape (s : String) : List Char := Text.decodeShown 0 (unescapedBytes s.toList)

/-! ## Parts of the text -/

def isSchemePart (c : Char) : Bool :=
  isAsciiLetter c || Number.isDigit c || c = '+' || c = '.' || c = '-'

/-- The scheme in front of the first colon, and the rest. -/
def splitScheme (cs : List Char) : List Char × List Char :=
  let scheme := if cs.head?.any isAsciiLetter then cs.takeWhile isSchemePart else []
  match cs.drop scheme.length with
  | ':' :: rest => (scheme, rest)
  | _ => ([], cs)

/-- The authority behind two slashes, and the rest. -/
def splitAuthority (cs : List Char) : List Char × List Char :=
  match cs with
  | '/' :: '/' :: rest => rest.span fun c => c ≠ '/' && c ≠ '?' && c ≠ '#'
  | _ => ([], cs)

/-- What follows a mark up to another one, if the mark is there, and the rest. -/
def splitMarked (mark : Char) (stop : Char → Bool) (cs : List Char) :
    Option (List Char) × List Char :=
  match cs with
  | c :: rest =>
    if c = mark then
      let (part, others) := rest.span (!stop ·)
      (some part, others)
    else (none, cs)
  | [] => (none, cs)

/-- The characters before and behind the last one of a kind. -/
def splitAtLast? (mark : Char) (cs : List Char) : Option (List Char × List Char) :=
  let behind := cs.reverse.takeWhile (· ≠ mark)
  if behind.length = cs.length then none
  else some (cs.take (cs.length - behind.length - 1), behind.reverse)

/-- The parts of a text between marks. -/
def splitAt (mark : Char) (s : String) : List String := (s.toList.splitOn mark).map String.ofList

/-- The host, in brackets if it starts with one that is closed, and what stands behind it. -/
def splitHost (cs : List Char) : List Char × List Char :=
  match cs, splitAtLast? ']' cs with
  | '[' :: _, some (inner, behind) => (inner ++ [']'], behind)
  | _, _ => cs.span (· ≠ ':')

/-! ## Hosts -/

/-- Whether a host looks like four numbers with dots between them. -/
def isNumbered (host : String) : Bool :=
  let parts := splitAt '.' host
  parts.length == 4 && parts.all fun p => !p.isEmpty && p.toList.all Number.isDigit

/-- A number below 256 without superfluous zeros. -/
def isOctet (s : String) : Bool :=
  let cs := s.toList
  cs.all Number.isDigit && decide (1 ≤ cs.length) && decide (cs.length ≤ 3) &&
    (cs.length == 1 || cs.head? != some '0') && decide (Number.ofDigits cs < 256)

def isIpv4 (host : String) : Bool :=
  let parts := splitAt '.' host
  parts.length == 4 && parts.all isOctet

/-- Up to four hexadecimal digits. -/
def isGroup (s : String) : Bool :=
  decide (1 ≤ s.length) && decide (s.length ≤ 4) && s.toList.all fun c => (hexValue? c).isSome

/-- Groups with at most one gap, which stands for at least one of the eight. -/
def areGroups (parts : List String) : Bool :=
  let inner := (parts.drop 1).dropLast
  match inner.countP String.isEmpty with
  | 0 => parts.length == 8 && parts.all isGroup
  | 1 =>
    let opening := !(parts.headD "").isEmpty || (inner.headD "x").isEmpty
    let closing := !(parts.getLastD "").isEmpty || (inner.getLastD "x").isEmpty
    let groups := parts.filter (!String.isEmpty ·)
    opening && closing && decide (groups.length < 8) && groups.all isGroup
  | _ => false

/-- Hexadecimal groups, the last two of which may be written as four numbers, and a zone. -/
def isIpv6 (host : String) : Bool :=
  let (address, zone) := match splitAt '%' host with
    | [address] => (address, true)
    | [address, zone] => (address, !zone.isEmpty)
    | _ => ("", false)
  let parts := splitAt ':' address
  let last := parts.getLastD ""
  let (whole, groups) :=
    if last.toList.contains '.' then (isIpv4 last, parts.dropLast ++ ["0", "0"]) else (true, parts)
  zone && decide (3 ≤ parts.length) && whole && decide (groups.length ≤ 9) && areGroups groups

def lowerAscii (s : String) : String := s.map Char.toLower

def isBracketed (cs : List Char) : Bool := cs.head? == some '[' && cs.getLast? == some ']'

def readHost (cs : List Char) : Except UrlFailure String :=
  let host := String.ofList cs
  if isBracketed cs then
    let inner := String.ofList (cs.drop 1).dropLast
    if isIpv6 inner then .ok inner else .error (.ipv6 host)
  else if isNumbered host then if isIpv4 host then .ok host else .error (.ipv4 host)
  else if cs.all (·.toNat < 128) then .ok (escape isHostPart (lowerAscii host).toList)
  else match HostName.encode host with
    | .ok name => .ok name
    | .error _ => .error (.hostName host)

/-! ## Ports -/

/-- The port that need not be written for a scheme. -/
def defaultPort? (scheme : String) : Option Int :=
  match scheme with
  | "ftp" => some 21
  | "http" | "ws" => some 80
  | "https" | "wss" => some 443
  | _ => none

/-- An integer in the digits of any script, with an optional sign and blanks around it. -/
def readInteger? (cs : List Char) : Option Int :=
  match (Text.strip cs).map Text.plainDigit with
  | '-' :: digits => (Number.ofGroups? digits).map fun n => -(n : Int)
  | '+' :: digits => (Number.ofGroups? digits).map fun n => (n : Int)
  | digits => (Number.ofGroups? digits).map fun n => (n : Int)

def readPort (scheme : String) (cs : List Char) : Except UrlFailure (Option Int) :=
  if cs.isEmpty then .ok none
  else match readInteger? cs with
    | none => .error (.port (String.ofList cs))
    | some n => .ok (if some n = defaultPort? scheme then none else some n)

/-! ## Paths -/

/-- Leaves out the segments for the same place, and with one for the place above the segment before
it. -/
def withoutDots (path : String) : String :=
  let step (kept : List String) (segment : String) : List String :=
    if segment = "." then kept
    else if segment = ".." then if kept = [""] then kept else kept.drop 1
    else segment :: kept
  "/".intercalate ((splitAt '/' path).foldl step []).reverse

def checkPath (hasScheme hasAuthority : Bool) (path : String) : Except UrlFailure Unit :=
  if hasAuthority && !path.isEmpty && !path.startsWith "/" then .error .rootless
  else if !hasScheme && !hasAuthority && path.startsWith "//" then .error .doubleSlash
  else if !hasScheme && !hasAuthority && path.startsWith ":" then .error .colon
  else .ok ()

/-! ## Reading and writing -/

/-- The longest text of an address. -/
def lengthLimit : Nat := 65536

def isControl (c : Char) : Bool := decide (c.toNat < 32) || c.toNat == 127

/-- The first control character with its position. -/
def control? (cs : List Char) : Option (Char × Nat) :=
  (cs.zipIdx.find? fun (c, _) => isControl c)

def parse (text : String) : Except UrlFailure Url := do
  let cs := text.toList
  if lengthLimit < cs.length then throw .tooLong
  if let some (c, position) := control? cs then throw (.control c position)
  let (schemeText, rest) := splitScheme cs
  let (authority, rest) := splitAuthority rest
  let (pathText, rest) := rest.span fun c => c ≠ '?' && c ≠ '#'
  let (query, rest) := splitMarked '?' (· = '#') rest
  let (fragment, _) := splitMarked '#' (fun _ => false) rest
  let (user, place) := (splitAtLast? '@' authority).getD ([], authority)
  let (hostText, behind) := splitHost place
  let scheme := String.ofList schemeText
  let userinfo := escape isUserPart user
  let host ← readHost hostText
  let port ← readPort scheme (if behind.head? = some ':' then behind.drop 1 else behind)
  let hasScheme := !scheme.isEmpty
  let hasAuthority := !userinfo.isEmpty || !host.isEmpty || port.isSome
  let path := String.ofList pathText
  checkPath hasScheme hasAuthority path
  let path := if hasScheme || hasAuthority then withoutDots path else path
  return { scheme := lowerAscii scheme, userinfo, host, port
           path := escape isPathPart path.toList
           query := query.map (escape isQueryPart)
           fragment := fragment.map (escape isFragmentPart) }

/-- Host and port, with brackets around a host that has colons. -/
def place (u : Url) : String :=
  (if u.host.toList.contains ':' then "[" ++ u.host ++ "]" else u.host) ++
    (u.port.map fun n => ":" ++ toString n).getD ""

def authority (u : Url) : String :=
  (if u.userinfo.isEmpty then "" else u.userinfo ++ "@") ++ u.place

def text (u : Url) : String :=
  (if u.scheme.isEmpty then "" else u.scheme ++ ":") ++
    (if u.authority.isEmpty then "" else "//" ++ u.authority) ++ u.path ++
    (u.query.map fun q => "?" ++ q).getD "" ++ (u.fragment.map fun f => "#" ++ f).getD ""

def isAbsolute (u : Url) : Bool := !u.scheme.isEmpty && !u.host.isEmpty

/-- The parts of an address that is put together again have to keep the limit of length. -/
def checkParts (u : Url) : Except UrlFailure Unit := do
  let parts := [("scheme", u.scheme), ("authority", u.authority), ("path", u.path),
    ("query", u.query.getD ""), ("fragment", u.fragment.getD "")]
  match parts.find? fun (_, part) => decide (lengthLimit < part.length) with
  | some (name, _) => throw (.partTooLong name)
  | none => return ()

/-- What a request asks for: an absolute address is taken as it is, of any other one the path and
the query are asked for below the root. -/
def requested (u : Url) : Except UrlFailure Url := do
  if u.isAbsolute then return u
  let path := "/" ++ String.ofList (u.path.toList.dropWhile (· = '/'))
  let asked : Url := { path, query := u.query }
  asked.checkParts
  return asked

/-- The text in front of the last number sign, and the text behind it. -/
def splitTag (text : String) : String × String :=
  match splitAtLast? '#' text.toList with
  | some (before, tag) => (String.ofList before, String.ofList tag)
  | none => (text, "")

/-- Whether an address starts with the name of a scheme, whatever characters that has. -/
def isTyped (u : Url) : Bool :=
  let cs := (splitTag u.text).1.toList
  let name := cs.takeWhile fun c => c ≠ ':' && c ≠ '/'
  !name.isEmpty && (cs.drop name.length).head? == some ':'

/-- The text of an address without a number sign at its end. -/
def taggedText (u : Url) : String :=
  let (before, tag) := splitTag u.text
  if tag.isEmpty then before else u.text

end Url

end Rehearsal
