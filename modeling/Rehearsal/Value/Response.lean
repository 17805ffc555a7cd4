import Rehearsal.Error
import Rehearsal.Json.Encoding
import Rehearsal.Text.Lowercase

/-!
# Reading responses

The body of a response as a text or as a document, and its headers by name.
-/

namespace Rehearsal.Response

def text (r : Response) : Outcome Value :=
  match Text.decode r.body with
  | .ok s => .ok (.ofString s)
  | .error f => .error (.undecodable f)

/-- The document in the body. -/
def document (r : Response) : Outcome Value := do
  let points ← (Json.decodeDocument r.body).mapError .undecodable
  return .ofJson (← (Json.parse points).mapError .ofDocument)

/-- The first header of that name, whatever its case. -/
def header? (r : Response) (name : String) : Option String :=
  (r.headers.find? fun (key, _) => Text.lower key == Text.lower name).map (·.2)

/-- The header named by a value; what is neither a text nor a byte string has no lower case. -/
def header (r : Response) (name : Value) : Outcome Value :=
  match name with
  | .text w => .ok (.ofOption ((w.text?.bind r.header?).map .ofString))
  | .bytes _ => .ok .none
  | v => .error (.member v.kindName "lower")

end Rehearsal.Response
