/-!
# Kinds of faults

A fault is the failure of a capability's operation. A simulated environment stores the last one; a
host raises it. Either way an attempt turns the kinds that it covers into a failed result.
-/

namespace Rehearsal

/-- What failed; `general` stands for every kind. -/
inductive FaultKind where
  | general
  | endOfInput
  | notFound
  | storageFull
  | transport
  | io
deriving DecidableEq, Repr

namespace FaultKind

def code : FaultKind → String
  | general => "fault"
  | endOfInput => "eof"
  | notFound => "not_found"
  | storageFull => "full"
  | transport => "transport"
  | io => "io"

def name : FaultKind → String
  | general => "EffectFault"
  | endOfInput => "EndOfInput"
  | notFound => "NotFound"
  | storageFull => "StorageFull"
  | transport => "TransportFault"
  | io => "IOFault"

def covers (wanted kind : FaultKind) : Bool := wanted == .general || wanted == kind

end FaultKind

end Rehearsal
