/-
# Nesting in JSON texts

Lists and mappings stand in each other, but only so deep: a reader that goes down into each of them
gives up at the bracket or brace that begins one level too many, unless the text has gone wrong
before.  Brackets and braces inside of texts begin no level.
-/

import WorkflowKit.Json.Reader

namespace WorkflowKit
namespace Json

/-- What values of a JSON text stand in. -/
inductive Container
  /-- A list. -/
  | list
  /-- A mapping. -/
  | map
  deriving DecidableEq, Repr

/-- The word for a container. -/
def Container.word : Container → String
  | list => "array"
  | map => "object"

/-- The wording of a container that begins one level too many. -/
def Container.message (c : Container) : String :=
  "maximum recursion depth exceeded while decoding a JSON " ++ c.word ++ " from a unicode string"

/-- The greatest number of containers in each other. -/
def nestingLimit : Nat := 989

/-- The container that begins more than `room` levels, and its offset, in a text whose first code
point has the offset `pos`.  The first argument says whether the text begins between quotes. -/
def overrunFrom? : Bool → Nat → Nat → List CodePoint → Option (Container × Nat)
  | _, _, _, [] => none
  | true, room, pos, p :: ps =>
    if p = .char '\\' then
      match ps with
      | [] => none
      | _ :: ps => overrunFrom? true room (pos + 2) ps
    else overrunFrom? (p != .char '"') room (pos + 1) ps
  | false, room, pos, p :: ps =>
    if p = .char '[' ∨ p = .char '\x7b' then
      match room with
      | 0 => some (if p = .char '[' then .list else .map, pos)
      | room + 1 => overrunFrom? false room (pos + 1) ps
    else if p = .char ']' ∨ p = .char '\x7d' then overrunFrom? false (room + 1) (pos + 1) ps
    else overrunFrom? (p == .char '"') room (pos + 1) ps

/-- The container at which reading a text gives up. -/
def overrun? (t : Text) : Option Container :=
  match overrunFrom? false nestingLimit 0 t.points with
  | none => none
  | some (c, pos) =>
    match read t with
    | .error (.malformed _ stop) => if stop < pos then none else some c
    | _ => some c

end Json
end WorkflowKit
