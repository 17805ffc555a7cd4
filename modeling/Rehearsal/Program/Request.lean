import Rehearsal.Value.Parts

/-!
# Requests

The atomic operations that a program asks its interpreter to carry out. Their arguments are values
of any kind; one that an operation cannot use is an error when the request is carried out. The last
group exists only where the environment is simulated.
-/

namespace Rehearsal

/-- A request for a server; only a post carries a payload. -/
structure HttpRequest where
  method : HttpMethod
  url : Value
  payload : Text.Bytes := []

inductive Request where
  | getEcho (handle : Value)
  | setEcho (handle : Value) (on : Bool)
  | getChar (handle : Value)
  | getLine (handle : Value)
  | put (handle text : Value)
  | flush (handle : Value)
  | delay (microseconds : Value)
  | systemTime
  | fileExists (path : Value)
  | loadFile (path : Value)
  | saveFile (path contents : Value)
  | randomInt
  | randomBetween (a b : Value)
  /-- The session is the client to use, or absent. -/
  | http (request : HttpRequest) (session : Value)
  | newSession
  | record (assertion : Assertion)
  | context
  | captured
  | clearFault
  | throw (fault : Fault)
  | getEnvironment
  | putEnvironment (environment : Value)
  | putLocal (value : Value)

/-- The name of an operation that no host has. -/
def Request.simulatedOnly? : Request → Option String
  | .captured => some "get_fault"
  | .clearFault => some "clear_fault"
  | .throw _ => some "throw"
  | .getEnvironment => some "get_state"
  | .putEnvironment _ => some "put_state"
  | .putLocal _ => some "put_local"
  | _ => none

end Rehearsal
