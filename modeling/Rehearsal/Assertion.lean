import Rehearsal.Wording

/-!
# Assertions

One falsifiable claim: the statement says what, the context where and the comment why.
-/

namespace Rehearsal

structure Assertion where
  statement : Wording
  comment : Wording
  context : Wording
  verdict : Verdict
deriving DecidableEq, Repr

namespace Assertion

def isSuccess (a : Assertion) : Bool := a.verdict == .success

def justification (a : Assertion) : Wording := a.comment

def ofBool (holds : Bool) (statement context comment : Wording) : Assertion :=
  ⟨statement, comment, context, Verdict.ofBool holds⟩

/-- Assertions are equal when they read alike. -/
def same (a b : Assertion) : Bool :=
  a.statement.same b.statement && a.comment.same b.comment && a.context.same b.context &&
    a.verdict == b.verdict

/-- A name in bold green or red, after which the terminal's own colours return. -/
def tinted (success : Bool) (name : String) : String :=
  (if success then "\x1b[1;32m" else "\x1b[1;31m") ++ name ++ "\x1b[0;39;49m"

def render (color : Bool) (a : Assertion) : Wording :=
  let name := if a.isSuccess then "Valid Assertion" else "Invalid Assertion"
  let header := if color then tinted a.isSuccess name else name
  .plain (header ++ " in ") ++ a.context ++ .plain " \nassertion: " ++ a.statement.display ++
    .plain " \ncomment: " ++ a.comment.display

end Assertion

end Rehearsal
