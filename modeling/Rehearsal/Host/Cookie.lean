import Rehearsal.Host.Url
import Rehearsal.Number.Double
import Rehearsal.Time.HeaderDate
import Rehearsal.Time.Instant

/-!
# Cookies

An answer may set cookies, which a client keeps by domain, path and name. A cookie has to be for the
host that was asked, and one that is to expire in the past is taken away. What a client keeps shows
only in whether it keeps any, so the values of cookies are left out.
-/

namespace Rehearsal

structure Cookie where
  domain : String
  path : String
  name : String
deriving DecidableEq, Repr

namespace Cookie

/-- The time at which an answer is looked at, in seconds since 1970, and its year. -/
structure Clock where
  seconds : Int
  year : Nat

/-- The reading of a clock; one without an offset counts as universal time. -/
def Clock.ofInstant (t : Time.Instant) : Clock :=
  let micros := t.universal?.getD t.wall
  let start : Int := Time.daysBefore 1970 * 86400
  ⟨micros.fdiv 1000000 - start, t.date.year⟩

/-! ## Offers -/

/-- Why a cookie has no terms. -/
inductive Defect where
  /-- The cookie is left out. -/
  | refused
  /-- All cookies of the answer that are offered in the same way are left out. -/
  | unreadable
deriving DecidableEq, Repr

/-- The end of a cookie: seconds since 1970, or a text that was not read as a date. -/
inductive Ending where
  | seconds (n : Int)
  | unread
deriving DecidableEq, Repr

/-- An attribute that counts, with its value if it has one. -/
inductive Attribute where
  | domain (value : Option String)
  | path (value : Option String)
  | version (value : Option String)
  | port (value : Option String)
  /-- Seconds from now on. -/
  | span (value : Option String)
  | ending (value : Option Ending)
deriving DecidableEq, Repr

/-- What a header offers: a name and attributes. -/
structure Offer where
  name : String
  attributes : List Attribute

/-- The attribute of a name in any case; `ended` is its value where that is a date. -/
def attribute? (name : String) (value : Option String) (ended : Option Ending) :
    Option Attribute :=
  match Url.lowerAscii name with
  | "domain" => some (.domain value)
  | "path" => some (.path value)
  | "version" => some (.version value)
  | "port" => some (.port value)
  | "max-age" => some (.span value)
  | "expires" => some (.ending ended)
  | _ => none

def stripped (cs : List Char) : String := String.ofList (Text.strip cs)

/-- Name and value of a part of a header; a part without an equals sign has no value. -/
def namedPart (part : String) : String × Option String :=
  let (name, rest) := part.toList.span (· ≠ '=')
  (stripped name, if rest.isEmpty then none else some (stripped (rest.drop 1)))

/-- One quote at either end is left out. -/
def unquoted (s : String) : List Char :=
  let cs := if s.toList.head? = some '"' then s.toList.drop 1 else s.toList
  if cs.getLast? = some '"' then cs.dropLast else cs

/-- The attribute of a part between semicolons. -/
def plainAttribute? (thisYear : Nat) (part : String × Option String) :
    Except Defect (Option Attribute) := do
  let (name, value) := part
  let bare := value.map fun v => unquoted v
  let ended ← match Url.lowerAscii name, bare.map (Time.HeaderDate.read thisYear) with
    | "expires", some .broken => throw .unreadable
    | "expires", some (.seconds n) => pure (some (.seconds n))
    | _, _ => pure none
  let value := if Url.lowerAscii name = "version" then bare.map String.ofList else value
  return attribute? name value ended

def Attribute.isVersion : Attribute → Bool
  | version _ => true
  | _ => false

/-- The cookie that a header with parts between semicolons is about; it has to have a name. Its
version is zero unless it is given. -/
def plainOffer? (thisYear : Nat) (header : String) : Except Defect (Option Offer) := do
  match (Url.splitAt ';' header).map namedPart with
  | [] => return none
  | (name, _) :: parts =>
    if name.isEmpty then return none
    let found ← (parts.filter (!·.1.isEmpty)).mapM (plainAttribute? thisYear)
    let attributes := found.filterMap id
    let missing := if attributes.any (·.isVersion) then [] else [.version (some "0")]
    return some ⟨name, attributes ++ missing⟩

/-! ## Offers in words -/

def isWordPart (c : Char) : Bool := !Text.isSpace c && !"=;,".toList.contains c

/-- A text between quotes, with what stands behind it; a backslash stands in front of a character
that is taken as it is. -/
def quotation? : List Char → Option (List Char × List Char)
  | '"' :: rest => some ([], rest)
  | '\\' :: c :: rest =>
    if c = '\n' then none else (quotation? rest).map fun (cs, behind) => (c :: cs, behind)
  | '\\' :: [] => none
  | c :: rest => (quotation? rest).map fun (cs, behind) => (c :: cs, behind)
  | [] => none

/-- The value behind an equals sign, if there is one, and the rest. -/
def wordValue (cs : List Char) : Option String × List Char :=
  match cs.dropWhile Text.isSpace with
  | '=' :: rest =>
    let rest := rest.dropWhile Text.isSpace
    let plain := rest.takeWhile fun c => !Text.isSpace c && c ≠ ';' && c ≠ ','
    let unquoted := (some (String.ofList plain), rest.drop plain.length)
    match rest with
    | '"' :: inner =>
      match quotation? inner with
      | some (text, behind) => (some (String.ofList text), behind)
      | none => unquoted
    | _ => unquoted
  | _ => (none, cs)

/-- The words of a header with their values, in groups with commas between them. -/
def wordGroups : Nat → List Char → List (List (String × Option String))
  | 0, _ => [[]]
  | fuel + 1, cs =>
    match cs.dropWhile Text.isSpace with
    | [] => [[]]
    | ',' :: rest => [] :: wordGroups fuel rest
    | c :: rest =>
      if isWordPart c then
        let name := (c :: rest).takeWhile isWordPart
        let (value, behind) := wordValue ((c :: rest).drop name.length)
        match wordGroups fuel behind with
        | group :: groups => ((String.ofList name, value) :: group) :: groups
        | [] => [[(String.ofList name, value)]]
      else wordGroups fuel rest

/-- The cookies that a header of words is about. Dates are not read there. -/
def wordOffers (header : String) : List Offer :=
  (wordGroups header.length header.toList).filterMap fun group =>
    match group with
    | [] => none
    | (name, _) :: parts =>
      some ⟨name, parts.filterMap fun (k, v) => attribute? k v (v.map fun _ => .unread)⟩

/-! ## Terms of a cookie -/

/-- The attributes of a cookie that count; of two with one name the first one does. -/
structure Terms where
  domain : Option String := none
  path : Option String := none
  version : Option String := none
  /-- The ports, or none for that of the request. -/
  ports : Option (Option String) := none
  ending : Option Ending := none

namespace Terms

/-- The first value of an attribute that has to have one. -/
def first (known value : Option String) : Except Defect (Option String) :=
  match known, value with
  | some v, _ => .ok (some v)
  | none, some v => .ok (some v)
  | none, none => .error .refused

/-- Takes up an attribute. A span of time counts more than a date. -/
def add (now : Int) (t : Terms) : Attribute → Except Defect Terms
  | .domain value => do return { t with domain := ← first t.domain (value.map Url.lowerAscii) }
  | .path value => do return { t with path := ← first t.path value }
  | .version value => do return { t with version := ← first t.version value }
  | .port value => .ok { t with ports := t.ports.or (some value) }
  | .ending value => .ok { t with ending := t.ending.or value }
  | .span value =>
    match value.map fun v => Url.readInteger? v.toList with
    | none => .error .unreadable
    | some none => .error .refused
    | some (some seconds) => .ok { t with ending := some (.seconds (now + seconds)) }

def ofOffer (now : Int) (o : Offer) : Except Defect Terms := o.attributes.foldlM (add now) {}

end Terms

/-! ## Hosts and paths of requests -/

/-- The host that is asked, without a port. -/
def hostOf (asked : Url) : String :=
  let host := Url.lowerAscii asked.authority
  match Url.splitAtLast? ':' host.toList with
  | some (before, digits) =>
    if !digits.isEmpty && digits.all Number.isDigit then String.ofList before else host
  | none => host

/-- The host that is asked; a name without dots is one of the local network. -/
def fullHostOf (asked : Url) : String :=
  let host := hostOf asked
  if host.toList.contains '.' then host else host ++ ".local"

def isPathPart (c : Char) : Bool :=
  Url.isAsciiLetter c || Number.isDigit c || "_.-~%/;:@&=+$,!*'()".toList.contains c

/-- Hexadecimal digits of escapes in upper case. -/
def upperEscapes : List Char → List Char
  | '%' :: a :: b :: rest =>
    if (Url.hexValue? a).isSome && (Url.hexValue? b).isSome then
      '%' :: a.toUpper :: b.toUpper :: upperEscapes rest
    else '%' :: upperEscapes (a :: b :: rest)
  | c :: rest => c :: upperEscapes rest
  | [] => []

def escapedPath (path : String) : String :=
  String.ofList (upperEscapes (Url.escape isPathPart path.toList).toList)

/-- The directory of the path that is asked for; only the newer kinds of cookies keep its slash. -/
def directoryOf (asked : Url) (version : Option Int) : String :=
  let escaped := escapedPath asked.path
  let path := if escaped.startsWith "/" then escaped else "/" ++ escaped
  let directory := ((Url.splitAtLast? '/' path.toList).map (·.1)).getD path.toList
  let directory := if version = some 0 then directory else directory ++ ['/']
  if directory.isEmpty then "/" else String.ofList directory

/-- The port that is asked for, which is read behind the first colon. -/
def portOf (asked : Url) : String :=
  match (Url.unescape asked.authority).dropWhile (· ≠ ':') with
  | _ :: digits => if (Url.readInteger? digits).isSome then String.ofList digits else "80"
  | [] => "80"

/-! ## Cookies of an answer -/

/-- A cookie with what decides about it. -/
structure Candidate where
  cookie : Cookie
  version : Option Int
  /-- Whether the answer names the domain. -/
  named : Bool
  /-- The ports that the answer names. -/
  ports : Option String

/-- A named domain has to have a dot inside, and has to hold the host that is asked. -/
def fitsDomain (asked : Url) (c : Candidate) : Bool :=
  let host := fullHostOf asked
  let domain := c.cookie.domain
  let bare := if domain.startsWith "." then String.ofList (domain.toList.drop 1) else domain
  let holds := host.endsWith domain || host.endsWith (bare ++ ".local") || host.startsWith "." ||
    ("." ++ host).endsWith domain
  (bare.toList.contains '.' || host.endsWith ".local") && (c.version != some 0 || holds)

/-- The port that is asked for has to be among named ones; what stands behind it is not read. -/
def fitsPorts (port : String) : List String → Bool
  | [] => false
  | p :: rest => (Url.readInteger? p.toList).isSome && (p == port || fitsPorts port rest)

/-- Cookies of a version above zero are not taken. -/
def isAllowed (asked : Url) (c : Candidate) : Bool :=
  c.version.any (decide <| · ≤ 0) && (!c.named || fitsDomain asked c) &&
    c.ports.all fun ports =>
      let written := String.ofList (ports.toList.filter (!Text.isSpace ·))
      fitsPorts (portOf asked) (Url.splitAt ',' written)

/-- The cookie that an answer sets by a name and by terms of a version. -/
def candidate (asked : Url) (name : String) (t : Terms) (version : Option Int) : Candidate :=
  let domain := match t.domain with
    | none => fullHostOf asked
    | some domain => if domain.startsWith "." then domain else "." ++ domain
  let path := match t.path with
    | none | some "" => directoryOf asked version
    | some path => escapedPath path
  { cookie := ⟨domain, path, name⟩, version, named := t.domain.isSome, ports := t.ports.join }

/-- The version of a cookie, if it has one; any other text than an integer stands for none. -/
def readVersion? (text : Option String) : Option (Option Int) :=
  match text with
  | none => some none
  | some s => (Url.readInteger? s.toList).map some

/-- Whether an end is not read, or is too late for a double. -/
def Ending.isBeyond : Ending → Bool
  | seconds n => (Number.nearest false n.toNat 1).isInf
  | unread => true

def Ending.isPast (now : Int) : Ending → Bool
  | seconds n => decide (n ≤ now)
  | unread => false

/-- What stays of the cookies kept so far, and the candidates of an answer. There are none if the
end of one is beyond reach. -/
def gather (now : Int) (asked : Url) :
    List (String × Terms) → List Cookie → List Cookie × Option (List Candidate)
  | [], kept => (kept, some [])
  | (name, t) :: rest, kept =>
    match readVersion? t.version with
    | none => gather now asked rest kept
    | some version =>
      let c := candidate asked name t version
      if t.ending.any (·.isPast now) then gather now asked rest (kept.filter (· ≠ c.cookie))
      else if t.ending.any (·.isBeyond) then (kept, none)
      else
        let (kept, found) := gather now asked rest kept
        (kept, found.map (c :: ·))

/-- The terms of all offers that are not refused, unless one of them is unreadable. -/
def readable? (now : Int) : List Offer → Option (List (String × Terms))
  | [] => some []
  | o :: rest =>
    match Terms.ofOffer now o with
    | .ok t => (readable? now rest).map ((o.name, t) :: ·)
    | .error .refused => readable? now rest
    | .error .unreadable => none

/-- What stays of the cookies kept so far, and the candidates among some offers. -/
def candidates (now : Int) (asked : Url) (offers : List Offer) (kept : List Cookie) :
    List Cookie × List Candidate :=
  let (kept, found) := gather now asked ((readable? now offers).getD []) kept
  (kept, found.getD [])

/-- The first version counts as zero. -/
def Candidate.plain (c : Candidate) : Candidate :=
  if c.version = some 1 then { c with version := some 0 } else c

/-- The cookies that are kept after an answer with some headers. Those of the newer kind of header
count only beside one of the other kind. -/
def receive (clock : Clock) (asked : Url) (headers : List (String × String)) (kept : List Cookie) :
    List Cookie :=
  let lines (name : String) : List String :=
    (headers.filter fun h => Url.lowerAscii h.1 == name).map (·.2)
  let plain := lines "set-cookie"
  if plain.isEmpty then kept
  else
    let inWords := (lines "set-cookie2").flatMap wordOffers
    let inParts := match plain.mapM (plainOffer? clock.year) with
      | .ok offers => offers.filterMap id
      | .error _ => []
    let (kept, newer) := candidates clock.seconds asked inWords kept
    let (kept, older) := candidates clock.seconds asked inParts kept
    let allowed := (newer ++ older.map (·.plain)).filter (isAllowed asked)
    (allowed.map (·.cookie)).foldl (fun all c => if all.contains c then all else all ++ [c]) kept

end Cookie

end Rehearsal
