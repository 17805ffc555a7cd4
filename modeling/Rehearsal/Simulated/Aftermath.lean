import Rehearsal.Value.Parts

/-!
# What a simulated run leaves behind

A run takes an environment and leaves one behind. A program may put any other value in its place;
the run then goes on until something needs a part of the environment.
-/

namespace Rehearsal

inductive Aftermath where
  | environment (e : Environment)
  /-- A value that was put in the place of an environment. -/
  | stray (v : Value)

namespace Aftermath

def ofValue : Value → Aftermath
  | .environment e => environment e
  | v => stray v

/-- The environment whose part of that name is needed. -/
def require (part : String) : Aftermath → Outcome Environment
  | environment e => .ok e
  | stray v => .error (.member v.kindName part)

/-- Why a value that is no environment takes no context. -/
def contextMismatch (v : Value) : Mismatch :=
  match v with
  | .assertion _ => .field "context"
  | .handle _ | .success _ | .failure _ | .response _ | .generator _ | .session _
  | .summary _ _ _ | .server _ => .recordField v.kindName "context"
  | _ => .record

/-- Goes back to the context of the surroundings. -/
def withContext (context : List Value) : Aftermath → Outcome Aftermath
  | environment e => .ok (environment { e with context })
  | stray v => .error (.mismatch (contextMismatch v))

end Aftermath

end Rehearsal
