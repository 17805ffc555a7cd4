/-!
# HTTP methods
-/

namespace Rehearsal

inductive HttpMethod where
  | get
  | post
  | delete
deriving DecidableEq, Repr

namespace HttpMethod

def name : HttpMethod → String
  | get => "get"
  | post => "post"
  | delete => "delete"

def verb : HttpMethod → String
  | get => "GET"
  | post => "POST"
  | delete => "DELETE"

end HttpMethod

end Rehearsal
