/-
# Dumping and pruning

A record is written in two passes.  The first dumps it: every field under its key, in the order in
which the fields are declared, but for those that hold nothing (`Node.dump`).  The second walks the
record and its dump side by side and drops the fields that hold empty lists and mappings
(`Node.prune`): it looks fields up by their keys, and items by their places, so that everything
depends on the two being laid out alike.

They are, if the keys of each record are distinct and none of its fields is left out
(`Node.Sound`): then the two passes together write a field exactly if it holds something
(`prune_dump`), and what they write has the shape of the record at every depth
(`shows_written_iff`).
-/

import Mathlib.Data.List.Forall2
import WorkflowKit.Proofs.Decode.Format
import WorkflowKit.Proofs.Value.Text

namespace WorkflowKit

/-- The keys of the fields of a part, in the order in which they are declared. -/
def Decode.Part.keys (p : Decode.Part) : List String := p.specs.map fun s => s.name.key

namespace Canonical

open Decode (Part)
open Member (writtenTexts)

/-- A value of the data model, as far as writing tells values apart. -/
inductive Node
  /-- A field that holds nothing. -/
  | absent
  /-- A text, an integer, a truth value or a word, and how it is written. -/
  | scalar (v : Value)
  /-- A mapping to texts. -/
  | texts (m : TextMap)
  /-- A list. -/
  | list (items : List Node)
  /-- A record of a part, with the values of its fields in the order in which they are declared. -/
  | record (p : Part) (values : List Node)

namespace Node

/-- Whether there is nothing to write. -/
def isAbsent : Node → Bool
  | absent => true
  | _ => false

/-- Whether a value is an empty list or mapping.  No record is. -/
def isEmpty : Node → Bool
  | list items => items.isEmpty
  | texts m => m.entries.isEmpty
  | _ => false

/-- Whether a field with a value is written. -/
def isShown (n : Node) : Bool := !(n.isAbsent || n.isEmpty)

mutual

/-- Everything that is not absent, under its key or in its place. -/
def dump : Node → Value
  | absent => .null
  | scalar v => v
  | texts m => .map (writtenTexts m)
  | list items => .list (dumpItems items)
  | record p values => .map (dumpFields p.keys values)

/-- The dumps of the items of a list. -/
def dumpItems : List Node → List Value
  | [] => []
  | n :: ns => dump n :: dumpItems ns

/-- The dumps of the fields of a record. -/
def dumpFields : List String → List Node → List (Text × Value)
  | key :: keys, n :: ns =>
    if n.isAbsent then dumpFields keys ns else (.ofString key, dump n) :: dumpFields keys ns
  | _, _ => []

end

mutual

/-- Drops the fields that are empty lists and mappings from the dump of a value. -/
def prune : Node → Value → Value
  | list items, .list vs => .list (pruneItems items vs)
  | record p values, .map es => .map (pruneFields p.keys values es)
  | _, v => v

/-- Prunes the items of a list, each beside its dump. -/
def pruneItems : List Node → List Value → List Value
  | n :: ns, v :: vs => prune n v :: pruneItems ns vs
  | _, _ => []

/-- Prunes the fields of a record: those whose keys are not in the dump are passed over. -/
def pruneFields : List String → List Node → List (Text × Value) → List (Text × Value)
  | key :: keys, n :: ns, es =>
    match lookup? (.ofString key) es with
    | none => pruneFields keys ns es
    | some v =>
      if n.isEmpty then pruneFields keys ns es
      else (.ofString key, prune n v) :: pruneFields keys ns es
  | _, _, _ => []

end

mutual

/-- What both passes together write. -/
def written : Node → Value
  | absent => .null
  | scalar v => v
  | texts m => .map (writtenTexts m)
  | list items => .list (writtenItems items)
  | record p values => .ofMembers (members p.keys values)

/-- What is written for the items of a list. -/
def writtenItems : List Node → List Value
  | [] => []
  | n :: ns => written n :: writtenItems ns

/-- What is written for the fields of a record. -/
def members : List String → List Node → List Member
  | key :: keys, n :: ns =>
    (key, if n.isShown then some (written n) else none) :: members keys ns
  | _, _ => []

end

/-- The fields of a record that are neither absent nor empty lists or mappings. -/
def shown (p : Part) (values : List Node) : List (String × Node) :=
  (p.keys.zip values).filter fun f => f.2.isShown

/-- Whether a value is written as it is: at every depth, every record with the keys of those fields
that are neither absent nor empty, in the order of their declaration, and every list with all its
items.  `mapping` says how mappings to texts are written. -/
inductive Shows (mapping : TextMap → List (Text × Value) → Prop) : Node → Value → Prop
  /-- An item that holds nothing. -/
  | absent : Shows mapping .absent .null
  /-- A text, an integer, a truth value or a word. -/
  | scalar (v : Value) : Shows mapping (.scalar v) v
  /-- A mapping to texts. -/
  | texts {m : TextMap} {es : List (Text × Value)} (written : mapping m es) :
    Shows mapping (.texts m) (.map es)
  /-- A list has as many items, in the same order. -/
  | list {ns : List Node} {vs : List Value} (items : List.Forall₂ (Shows mapping) ns vs) :
    Shows mapping (.list ns) (.list vs)
  /-- A record has the keys of the fields that are shown, each once and in order, and their
  values. -/
  | record {p : Part} {values : List Node} {es : List (Text × Value)}
    (complete : values.length = p.keys.length)
    (keys : es.map Prod.fst = (shown p values).map fun f => .ofString f.1)
    (fields : List.Forall₂ (Shows mapping) ((shown p values).map Prod.snd) (es.map Prod.snd)) :
    Shows mapping (.record p values) (.map es)

/-- Whether the records inside a value have all their fields, under distinct keys. -/
inductive Sound : Node → Prop
  /-- Nothing. -/
  | absent : Sound .absent
  /-- A text, an integer, a truth value or a word. -/
  | scalar (v : Value) : Sound (.scalar v)
  /-- A mapping to texts. -/
  | texts (m : TextMap) : Sound (.texts m)
  /-- A list. -/
  | list {ns : List Node} (items : ∀ n ∈ ns, Sound n) : Sound (.list ns)
  /-- A record. -/
  | record {p : Part} {values : List Node} (complete : values.length = p.keys.length)
    (nodup : p.keys.Nodup) (values_sound : ∀ n ∈ values, Sound n) : Sound (.record p values)

mutual

/-- The mappings to texts inside a value. -/
def textMaps : Node → List TextMap
  | texts m => [m]
  | list items => allTextMaps items
  | record _ values => allTextMaps values
  | _ => []

/-- The mappings to texts inside some values. -/
def allTextMaps : List Node → List TextMap
  | [] => []
  | n :: ns => textMaps n ++ allTextMaps ns

end

variable {n : Node} {ns : List Node} {p : Part} {fs : List (String × Node)}

theorem writtenItems_eq_map (ns : List Node) : writtenItems ns = ns.map written := by
  induction ns with
  | nil => rfl
  | cons n ns ih => rw [writtenItems, ih, List.map_cons]

theorem allTextMaps_eq_flatMap (ns : List Node) : allTextMaps ns = ns.flatMap textMaps := by
  induction ns with
  | nil => rfl
  | cons n ns ih => rw [allTextMaps, ih, List.flatMap_cons]

/-! ### Fields -/

/-- The dumps of fields that are not absent. -/
def dumped (fs : List (String × Node)) : List (Text × Value) :=
  (fs.filter fun f => !f.2.isAbsent).map fun f => (.ofString f.1, f.2.dump)

theorem dumpFields_eq (keys : List String) (ns : List Node) :
    dumpFields keys ns = dumped (keys.zip ns) := by
  induction keys generalizing ns with
  | nil => simp [dumpFields, dumped]
  | cons key keys ih =>
    cases ns with
    | nil => simp [dumpFields, dumped]
    | cons n ns =>
      rw [dumpFields, ih, List.zip_cons_cons, dumped]
      cases h : n.isAbsent <;> simp [h, dumped]

theorem members_eq (keys : List String) (ns : List Node) :
    members keys ns = (keys.zip ns).map fun f =>
      (f.1, if f.2.isShown then some f.2.written else none) := by
  induction keys generalizing ns with
  | nil => simp [members]
  | cons key keys ih => cases ns <;> simp [members, ih]

theorem pruneFields_eq (keys : List String) (ns : List Node) (es : List (Text × Value)) :
    pruneFields keys ns es = (keys.zip ns).filterMap fun f =>
      (lookup? (.ofString f.1) es).bind fun v =>
        if f.2.isEmpty then none else some (.ofString f.1, f.2.prune v) := by
  induction keys generalizing ns with
  | nil => simp [pruneFields]
  | cons key keys ih =>
    cases ns with
    | nil => simp [pruneFields]
    | cons n ns =>
      rw [pruneFields, ih, List.zip_cons_cons, List.filterMap_cons]
      cases lookup? (.ofString key) es with
      | none => rfl
      | some v => cases n.isEmpty <;> rfl

/-- What is written for a record: the fields that are shown. -/
theorem entries_members (p : Part) (values : List Node) :
    (members p.keys values).filterMap Member.entry? =
      (shown p values).map fun f => (.ofString f.1, f.2.written) := by
  rw [members_eq, shown, List.filterMap_map]
  induction p.keys.zip values with
  | nil => rfl
  | cons f fs ih =>
    rw [List.filterMap_cons, ih, List.filter_cons, Function.comp_apply]
    cases f.2.isShown <;> rfl

/-- A field is found in the dump by its key, and only if it is there. -/
theorem lookup?_dumped (hfs : (fs.map Prod.fst).Nodup) {f : String × Node} (hf : f ∈ fs) :
    lookup? (.ofString f.1) (dumped fs) = if f.2.isAbsent then none else some f.2.dump := by
  induction fs with
  | nil => cases hf
  | cons g fs ih =>
    rw [List.map_cons, List.nodup_cons] at hfs
    have hother {f : String × Node} (hne : f.1 ≠ g.1) :
        lookup? (.ofString f.1) (dumped (g :: fs)) = lookup? (.ofString f.1) (dumped fs) := by
      cases h : g.2.isAbsent <;> simp [dumped, lookup?, h, Text.ofString_inj, hne.symm]
    rcases List.mem_cons.1 hf with rfl | hf
    · cases h : f.2.isAbsent with
      | false => simp [dumped, lookup?, h]
      | true =>
        have hnone : ∀ k d, (k, d) ∈ fs → k ≠ f.1 := fun k d hk heq =>
          hfs.1 (heq ▸ List.mem_map_of_mem (f := Prod.fst) hk)
        simpa [dumped, lookup?, h, Text.ofString_inj] using fun k d hk _ => hnone k d hk
    · have hne : f.1 ≠ g.1 := fun heq => hfs.1 (heq ▸ List.mem_map_of_mem hf)
      rw [hother hne, ih hfs.2 hf]

/-! ### Two passes -/

/-- The items of a list are walked in step with its dump. -/
theorem pruneItems_dumpItems (h : ∀ n ∈ ns, n.prune n.dump = n.written) :
    pruneItems ns (dumpItems ns) = writtenItems ns := by
  induction ns with
  | nil => rfl
  | cons n ns ih =>
    rw [List.forall_mem_cons] at h
    rw [dumpItems, pruneItems, writtenItems, h.1, ih h.2]

/-- The fields of a record are walked in step with its dump. -/
theorem pruneFields_dumpFields {values : List Node} (complete : values.length = p.keys.length)
    (nodup : p.keys.Nodup) (h : ∀ n ∈ values, n.prune n.dump = n.written) :
    pruneFields p.keys values (dumpFields p.keys values) =
      (members p.keys values).filterMap Member.entry? := by
  have hkeys : (p.keys.zip values).map Prod.fst = p.keys :=
    List.map_fst_zip (Nat.le_of_eq complete.symm)
  rw [pruneFields_eq, dumpFields_eq, members_eq, List.filterMap_map]
  refine List.filterMap_congr fun f hf => ?_
  have hvalue : f.2 ∈ values := (List.of_mem_zip hf).2
  rw [lookup?_dumped (by rwa [hkeys]) hf, Function.comp_apply, isShown, Member.entry?]
  cases f.2.isAbsent with
  | true => rfl
  | false =>
    cases f.2.isEmpty with
    | true => rfl
    | false => simp [h f.2 hvalue]

/-- **Pruning never loses its place**: beside the dump of a value it leaves what is to be
written. -/
theorem prune_dump (h : n.Sound) : n.prune n.dump = n.written := by
  induction h with
  | absent | scalar | texts => rfl
  | list _ ih => rw [dump, prune, written, pruneItems_dumpItems ih]
  | record complete nodup _ ih =>
    rw [dump, prune, written, pruneFields_dumpFields complete nodup ih]
    rfl

/-! ### The shape of what is written -/

/-- A field that is not shown has no mappings but empty ones. -/
theorem entries_eq_nil_of_isShown (h : n.isShown = false) {m : TextMap} (hm : m ∈ n.textMaps) :
    m.entries = [] := by
  cases n with
  | absent | scalar => cases hm
  | texts m' =>
    obtain rfl := List.mem_singleton.1 hm
    simpa [isShown, isAbsent, isEmpty] using h
  | list ns =>
    have hns : ns = [] := by simpa [isShown, isAbsent, isEmpty] using h
    rw [hns] at hm
    cases hm
  | record => cases h

/-- **What is written has the shape of the value**, and its mappings are written as `mapping` says
exactly if each of them is. -/
theorem shows_written_iff {mapping : TextMap → List (Text × Value) → Prop}
    (hempty : ∀ m, m.entries = [] → mapping m (writtenTexts m)) (h : n.Sound) :
    n.Shows mapping n.written ↔ ∀ m ∈ n.textMaps, mapping m (writtenTexts m) := by
  induction h with
  | absent => simp [written, textMaps, Shows.absent]
  | scalar v => simp [written, textMaps, Shows.scalar]
  | texts m =>
    rw [textMaps, List.forall_mem_singleton]
    refine ⟨fun h => ?_, .texts⟩
    cases h with
    | texts h => exact h
  | @list ns _ ih =>
    have hitems : List.Forall₂ (Shows mapping) ns (ns.map written) ↔
        ∀ n ∈ ns, n.Shows mapping n.written := by
      rw [List.forall₂_map_right_iff, List.forall₂_same]
    rw [written, writtenItems_eq_map, textMaps, allTextMaps_eq_flatMap]
    calc (list ns).Shows mapping (.list (ns.map written))
        ↔ ∀ n ∈ ns, n.Shows mapping n.written := by
          rw [← hitems]
          refine ⟨fun h => ?_, .list⟩
          cases h with
          | list h => exact h
      _ ↔ ∀ n ∈ ns, ∀ m ∈ n.textMaps, mapping m (writtenTexts m) := forall₂_congr ih
      _ ↔ ∀ m ∈ ns.flatMap textMaps, mapping m (writtenTexts m) := List.forall_mem_flatMap.symm
  | @record p values complete nodup _ ih =>
    have hfields : List.Forall₂ (Shows mapping) ((shown p values).map Prod.snd)
        ((shown p values).map fun f => f.2.written) ↔
          ∀ f ∈ shown p values, f.2.Shows mapping f.2.written := by
      rw [List.forall₂_map_left_iff, List.forall₂_map_right_iff, List.forall₂_same]
    have hvalues : (p.keys.zip values).map Prod.snd = values :=
      List.map_snd_zip (Nat.le_of_eq complete)
    rw [written, Value.ofMembers, entries_members, textMaps, allTextMaps_eq_flatMap]
    calc (record p values).Shows mapping
          (.map ((shown p values).map fun f => (.ofString f.1, f.2.written)))
        ↔ ∀ f ∈ shown p values, f.2.Shows mapping f.2.written := by
          rw [← hfields]
          refine ⟨fun h => ?_, fun h => .record complete (by rw [List.map_map]; rfl) ?_⟩
          · cases h with
            | record _ _ h => rwa [List.map_map] at h
          · rwa [List.map_map]
      _ ↔ ∀ n ∈ values, ∀ m ∈ n.textMaps, mapping m (writtenTexts m) := by
          refine ⟨fun h n hn m hm => ?_, fun h f hf => ?_⟩
          -- Of a field that is not shown nothing is said by what is written, but its mappings are
          -- empty.
          · cases hshown : n.isShown with
            | false => exact hempty m (entries_eq_nil_of_isShown hshown hm)
            | true =>
              obtain ⟨f, hf, rfl⟩ := List.mem_map.1 (hvalues.symm ▸ hn)
              exact (ih _ hn).1 (h f (List.mem_filter.2 ⟨hf, hshown⟩)) m hm
          · have hf : f.2 ∈ values := (List.of_mem_zip (List.mem_filter.1 hf).1).2
            exact (ih _ hf).2 (h _ hf)
      _ ↔ ∀ m ∈ values.flatMap textMaps, mapping m (writtenTexts m) :=
          List.forall_mem_flatMap.symm

end Node
end Canonical
end WorkflowKit
