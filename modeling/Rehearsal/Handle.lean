import Rehearsal.Text.Literal

/-!
# Handles

Names of the streams that a program reads and writes.
-/

namespace Rehearsal

structure Handle where
  name : String
deriving DecidableEq, Repr

namespace Handle

def stdin : Handle := ⟨"stdin"⟩

def stdout : Handle := ⟨"stdout"⟩

def stderr : Handle := ⟨"stderr"⟩

def literal (h : Handle) : String := "Handle(name=" ++ Text.literal h.name ++ ")"

end Handle

end Rehearsal
