import Rehearsal.Program.Request
import Rehearsal.Value.Arithmetic

/-!
# Responders

A responder answers the requests of a simulated client. It sees the value that the environment
keeps for it and gives the answer together with the next such value.
-/

namespace Rehearsal

structure Responder where
  answer : Value → HttpRequest → Outcome (Value × Value)

namespace Responder

/-- Fails every request and leaves the kept value alone. -/
def unreachable : Responder where
  answer kept request := do
    let fault ← Fault.make .transport "no scripted response" request.url
    return (.failure (.fault fault), kept)

def reply (request : HttpRequest) (status : Int) (body : Text.Bytes) : Value :=
  .success (.response { status := .int status, body, headers := [], url := request.url })

/-- The origin of what follows a value. -/
def successor : Value → Origin
  | .nan origin => 0 :: origin
  | _ => []

/-- Answers with the kept value as text and counts one further. -/
def counting : Responder where
  answer kept request := do
    let body ← (← kept.displayed).encode.mapError .unencodable
    let next ← kept.add (successor kept) (.int 1)
    return (reply request 200 body, next)

/-- The contents of a place, which are bytes. -/
def contents (v : Value) : Outcome Text.Bytes :=
  match v with
  | .bytes bs => .ok bs
  | v => .error (.member v.kindName "hex")

/-- The answers of a small store: the kept value is a dictionary from places to contents. -/
def store : Responder where
  answer kept request :=
    match request.method, kept with
    | .get, kept => do
      if ← kept.holds request.url then
        let body ← contents (← kept.item request.url)
        return (reply request 200 body, kept)
      else return (reply request 404 [], kept)
    | .post, .dict entries => do
      request.url.hashable
      return (reply request 201 [], .dict (Value.put request.url (.bytes request.payload) entries))
    | .post, v => .error (.mismatch (.mapping v.kindName))
    | .delete, .dict entries =>
      .ok (reply request 204 [], .dict (entries.filter fun e => !e.1.same request.url))
    | .delete, v => .error (.member v.kindName "items")

/-- The request as it is kept in a list. -/
def noted (request : HttpRequest) : Value :=
  let base : List Value := [request.method.name, request.url]
  .list (if request.method = .post then base ++ [.bytes request.payload] else base)

/-- Answers from fixed lists, one for each method, in turn; the requests are kept in a list. -/
def scripted (answers : HttpMethod → List Value) : Responder where
  answer kept request := do
    let options := answers request.method
    match options[(← kept.length) % options.length]? with
    | some answer => return (answer, ← kept.add [] (.list [noted request]))
    | none => .error (.division .integerRemainder)

end Responder

end Rehearsal
