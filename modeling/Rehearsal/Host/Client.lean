import Rehearsal.Error
import Rehearsal.Host.Compression
import Rehearsal.Host.Cookie
import Rehearsal.Text.Blank

/-!
# Clients

What a client makes of a request before it is sent, and of the answer before it is handed on. The
address is brought into its normal form; header names are in lower case, repeated ones are joined,
and a compressed body is unpacked.
-/

namespace Rehearsal

structure Client where
  isOpen : Bool := true
  cookies : List Cookie := []

/-- A request on its way; only a post carries a payload. -/
structure SentRequest where
  method : HttpMethod
  url : Url
  payload : Text.Bytes := []
deriving DecidableEq

/-- The address that is asked for. -/
def Value.address (v : Value) : Outcome Url :=
  match v with
  | .text w => do
    let _ ← w.encode.mapError fun f => .unencodable ⟨f.number, 0, 0⟩
    (Url.parse w.contents >>= Url.requested).mapError .invalidUrl
  | v => do .error (.mismatch (.url (v.familyName ++ v.typeName) (← v.shown)))

namespace Url

/-- Cookies are only looked up for an address that starts with the name of a scheme. -/
def checkTyped (u : Url) : Outcome Unit :=
  if u.isTyped then .ok () else .error (.rejected (.untyped u.taggedText))

/-- The host as its users write it. -/
def shownHost (u : Url) : Outcome String := (HostName.decode u.host).mapError .hostName

/-- A request names its host in a header, which has to be in ASCII. -/
def checkNamed (u : Url) : Outcome Unit := do
  let _ ← u.shownHost
  match Text.firstWide? 0 u.place.toList with
  | some f => throw (.notAscii f)
  | none => return ()

end Url

namespace Response

/-- The first header with a character that is not in ASCII, in name or value. -/
def wideHeader? (r : Response) : Option Text.EncodeFailure :=
  r.headers.findSome? fun (name, value) =>
    (Text.firstWide? 0 name.toList).or (Text.firstWide? 0 value.toList)

/-- Headers by name in lower case; repeated ones are joined at the first place. -/
def joinHeader (name value : String) : List (String × String) → List (String × String)
  | [] => [(name, value)]
  | (n, v) :: rest =>
    if n = name then (n, v ++ ", " ++ value) :: rest else (n, v) :: joinHeader name value rest

/-- The headers of an answer; the length of a body is added where it is missing. -/
def deliveredHeaders (r : Response) : List (String × String) :=
  let joined := r.headers.foldl (fun done (n, v) => joinHeader (Url.lowerAscii n) v done) []
  if r.body.isEmpty || joined.any (·.1 == "content-length") then joined
  else joined ++ [("content-length", toString r.body.length)]

/-- The encodings of a body by their names, in the order in which they were applied. -/
def encodings (headers : List (String × String)) : List String :=
  match headers.find? (·.1 == "content-encoding") with
  | some (_, names) =>
    (Url.splitAt ',' names).map fun name => Url.lowerAscii (String.ofList (Text.strip name.toList))
  | none => []

/-- The answer to a request as it comes from the transport. -/
def delivered (r : Response) : Outcome Response :=
  let headers := r.deliveredHeaders
  match r.wideHeader?, Compression.decode (encodings headers) r.body with
  | some f, _ => .error (.notAscii f)
  | none, .ok body => .ok { r with headers, body }
  | none, .error f => .error (.transport ⟨.decodingError, f.message⟩)

end Response

end Rehearsal
