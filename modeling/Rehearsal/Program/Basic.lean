import Rehearsal.Program.Request

/-!
# Programs

A program describes an effectful computation; an interpreter carries it out. Programs are put
together from requests by sequencing, and from bodies, which yield one program after the
other and go on with its value.
-/

namespace Rehearsal

mutual

inductive Program where
  | pure (value : Value)
  /-- A continuation that came to no computation. -/
  | fail (error : Error)
  | ask (request : Request)
  | bind (first : Program) (next : Value → Program)
  | map (first : Program) (change : Value → Outcome Value)
  | body (body : Body)
  | attempt (program : Program) (kind : FaultKind)
  | nest (name : Value) (program : Program)

inductive Body where
  | done (value : Value)
  | raise (error : Error)
  | yield (program : Program) (next : Value → Body)

end

namespace Program

/-- The error of a continuation that came to no computation. -/
def refusal? : Program → Option Error
  | fail e => some e
  | _ => none

/-- A program, or the reason why there is none as a program of its own. -/
def ofOutcome : Outcome Program → Program
  | .ok p => p
  | .error e => fail e

def standardInput : Program := pure (.handle .stdin)

def standardOutput : Program := pure (.handle .stdout)

def standardError : Program := pure (.handle .stderr)

def put (handle : Handle) (text : Value) : Program := ask (.put (.handle handle) text)

end Program

namespace Body

/-- Yields the programs in order and gives a value at the end. -/
def ofList (last : Value) : List Program → Body
  | [] => done last
  | p :: rest => yield p fun _ => ofList last rest

end Body

end Rehearsal
