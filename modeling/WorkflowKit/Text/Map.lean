/-
# Mappings to texts

A mapping from texts to texts, in the order in which its keys were written first.
-/

import WorkflowKit.Entries
import WorkflowKit.Text

namespace WorkflowKit

/-- A mapping to texts. -/
structure TextMap where
  /-- The entries, in order. -/
  entries : List (Text × Text)
  /-- The keys are distinct. -/
  nodup : (entries.map Prod.fst).Nodup
  deriving DecidableEq, Repr

namespace TextMap

/-- The mapping without entries. -/
def empty : TextMap := ⟨[], .nil⟩

instance : Inhabited TextMap := ⟨empty⟩

/-- The mapping that some entries write; of equal keys the last counts. -/
def ofEntries (es : List (Text × Text)) : TextMap :=
  ⟨distinctEntries es, nodup_distinctEntries es⟩

/-- The keys, in order. -/
def keys (m : TextMap) : List Text := m.entries.map Prod.fst

end TextMap
end WorkflowKit
