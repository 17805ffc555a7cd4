import Rehearsal.Value.Parts

/-!
# Containment

A sequence contains another when it is that sequence between some other items. Texts are searched
character by character and byte strings byte by byte; any other two values are compared
by their elements.
-/

namespace Rehearsal

/-- Whether the items start with others, compared by `same`. -/
def startsWith {α : Type} (same : α → α → Bool) : List α → List α → Bool
  | [], _ => true
  | _ :: _, [] => false
  | x :: xs, y :: ys => same x y && startsWith same xs ys

/-- Whether some window of the second list equals the first list. -/
def containsWindow {α : Type} (same : α → α → Bool) (needle : List α) : List α → Bool
  | [] => needle.isEmpty
  | y :: ys => startsWith same needle (y :: ys) || containsWindow same needle ys

namespace Value

/-- Whether `needle` occurs in `haystack`. -/
def occursIn (needle haystack : Value) : Outcome Bool :=
  match needle, haystack with
  | text a, text b => .ok (containsWindow (· == ·) a.points b.points)
  | bytes a, bytes b => .ok (containsWindow (· == ·) a b)
  | needle, haystack => do
    let xs ← needle.elements
    let ys ← haystack.elements
    return containsWindow (fun x y => y.alike x) xs ys

end Value

end Rehearsal
