/-
# Paths of files

A path is a sequence of names between slashes.  In its normal form empty names and names of a
single dot are left out; one slash at the start is kept, and so are exactly two, but more count as
one.  The empty path is a dot.
-/

import WorkflowKit.Text
import WorkflowKit.Text.CodeSet

namespace WorkflowKit
namespace Text

/-- The slashes at the start of the normal form. -/
def pathRoot : List CodePoint → List CodePoint
  | .char '/' :: .char '/' :: .char '/' :: _ => [.char '/']
  | .char '/' :: .char '/' :: _ => [.char '/', .char '/']
  | .char '/' :: _ => [.char '/']
  | _ => []

/-- The names of a path that count. -/
def pathNames (ps : List CodePoint) : List (List CodePoint) :=
  (pieces (· = .char '/') ps).filter fun name => name ≠ [] ∧ name ≠ [.char '.']

/-- The normal form of a path. -/
def normalPath (s : Text) : Text :=
  match pathRoot s.points ++ List.intercalate [.char '/'] (pathNames s.points) with
  | [] => "."
  | path => ⟨path⟩

end Text
end WorkflowKit
