/-
# Reading plain documents to any depth

Reading a parallel state follows the document down with a bound on the depth, and watches out for
states that stand inside themselves.  In the document of a plain value no collection is shared, so
neither matters: whatever the bound, if it exceeds the depth, a parallel state is read by its
fields and its branches (`parallelStateIn_toDoc`).

Decoders that agree on all values of less depth agree on a record of them, since the values of its
fields lie less deep (`depth_lt_of_mem`).
-/

import WorkflowKit.Proofs.Decode.Field

namespace WorkflowKit

namespace Value

/-- How deep a value is nested. -/
def depth (v : Value) : Nat := v.toDoc.depth

/-- An item is at most as deep as the items of its list. -/
theorem depth_le_depthItems {v : Value} {vs : List Value} (h : v ∈ vs) :
    v.depth ≤ Doc.depthItems (itemsToDoc vs) := by
  induction vs with
  | nil => cases h
  | cons w vs ih =>
    rw [itemsToDoc, Doc.depthItems]
    rcases List.mem_cons.1 h with rfl | h
    · exact Nat.le_max_left ..
    · exact Nat.le_trans (ih h) (Nat.le_max_right ..)

/-- An item is less deep than its list. -/
theorem depth_lt_of_mem_list {v : Value} {vs : List Value} (h : v ∈ vs) :
    v.depth < (list vs).depth :=
  Nat.lt_succ_of_le (depth_le_depthItems h)

/-- A value is at most as deep as the entries of its mapping. -/
theorem depth_le_depthEntries {e : Text × Value} {es : List (Text × Value)} (h : e ∈ es) :
    e.2.depth ≤ Doc.depthEntries (entriesToDoc es) := by
  induction es with
  | nil => cases h
  | cons f es ih =>
    rw [entriesToDoc, Doc.depthEntries]
    rcases List.mem_cons.1 h with rfl | h
    · exact Nat.le_max_left ..
    · exact Nat.le_trans (ih h) (Nat.le_max_right ..)

/-- A value is less deep than its mapping. -/
theorem depth_lt_of_mem {e : Text × Value} {es : List (Text × Value)} (h : e ∈ es) :
    e.2.depth < (map es).depth :=
  Nat.lt_succ_of_le (depth_le_depthEntries h)

end Value

namespace Decode

variable {α β : Type}

/-- Two decoders agree on the values of less depth. -/
def AgreeBelow (n : Nat) (x y : Decoder α) : Prop :=
  ∀ v : Value, v.depth < n → x v.toDoc = y v.toDoc

/-- Decoders that agree up to a depth agree up to a lesser one. -/
theorem AgreeBelow.mono {m n : Nat} {x y : Decoder α} (h : AgreeBelow n x y) (hmn : m ≤ n) :
    AgreeBelow m x y := fun v hv => h v (Nat.lt_of_lt_of_le hv hmn)

/-- What is found under a key is the document of one of the values. -/
theorem field?_toDoc {key : Text} {es : List (Text × Value)} {d : Doc}
    (h : Doc.field? key (Value.entriesToDoc es) = some d) : ∃ e ∈ es, d = e.2.toDoc := by
  rw [Value.entriesToDoc_eq_map, Doc.field?] at h
  obtain ⟨f, hf, rfl⟩ := Option.map_eq_some_iff.1 h
  obtain ⟨e, he, rfl⟩ := List.mem_map.1 (List.mem_of_find?_eq_some hf)
  exact ⟨e, he, rfl⟩

/-- What is given for a field is the document of one of the values, under either name. -/
theorem given?_toDoc {name : FieldName} {es : List (Text × Value)} {k : String} {d : Doc}
    (h : name.given? (Value.entriesToDoc es) = some (k, d)) : ∃ e ∈ es, d = e.2.toDoc := by
  rw [FieldName.given?] at h
  split at h
  · next d' hd =>
    obtain ⟨-, rfl⟩ := Prod.mk.inj (Option.some.inj h)
    exact field?_toDoc hd
  · obtain ⟨d', hd, heq⟩ := Option.map_eq_some_iff.1 h
    obtain ⟨-, rfl⟩ := Prod.mk.inj heq
    exact field?_toDoc hd

/-- Two decoders that agree below a mapping agree on a field of it. -/
theorem withDefault_congr {name : FieldName} {fallback : α} {x y : Decoder α}
    {es : List (Text × Value)} (h : AgreeBelow (Value.map es).depth x y) :
    (withDefault name fallback x).read (Value.entriesToDoc es) =
      (withDefault name fallback y).read (Value.entriesToDoc es) := by
  simp only [withDefault]
  split
  · next k d hd =>
    obtain ⟨e, he, rfl⟩ := given?_toDoc hd
    rw [h _ (Value.depth_lt_of_mem he)]
  · rfl

/-- Two decoders that agree on all items read them alike, faults included. -/
theorem readItems_congr {x y : Decoder α} {vs : List Value} (n : Nat)
    (h : ∀ v ∈ vs, x v.toDoc = y v.toDoc) :
    readItems x n (Value.itemsToDoc vs) = readItems y n (Value.itemsToDoc vs) := by
  induction vs generalizing n with
  | nil => rfl
  | cons v vs ih =>
    rw [Value.itemsToDoc, readItems, readItems, h v (List.mem_cons_self ..),
      ih _ fun w hw => h w (List.mem_cons_of_mem _ hw)]

/-- Lists lie one level above their items. -/
theorem list_congr {n : Nat} {x y : Decoder α} (h : AgreeBelow n x y) :
    AgreeBelow (n + 1) (list x) (list y) := by
  intro v hv
  cases v with
  | list vs =>
    exact readItems_congr 0 fun w hw =>
      h w (Nat.lt_of_lt_of_le (Value.depth_lt_of_mem_list hw) (Nat.le_of_lt_succ hv))
  | _ => rfl

/-- Records lie one level above the values of their fields. -/
theorem record_congr {name : String} {x y : Fields α} (hnames : x.names = y.names)
    {n : Nat} (h : ∀ es, (Value.map es).depth < n →
      x.read (Value.entriesToDoc es) = y.read (Value.entriesToDoc es)) :
    AgreeBelow n (record name x) (record name y) := by
  intro v hv
  cases v with
  | map es =>
    show ofEntries x _ = ofEntries y _
    rw [ofEntries, ofEntries, hnames, h es hv]
  | _ => rfl

/-- Branches lie one level above their states. -/
theorem branchOf_congr {n : Nat} {x y : Decoder State} (h : AgreeBelow n x y) :
    AgreeBelow (n + 1) (branchOf x) (branchOf y) := by
  unfold branchOf
  refine record_congr (by rfl) fun es hes => ?_
  simp only [Fields.seq_read, Fields.map_read]
  rw [withDefault_congr ((list_congr h).mono (Nat.le_of_lt hes))]

/-- Parallel states lie one level above their branches. -/
theorem parallelStateOf_congr {n : Nat} {x y : Decoder Branch} (h : AgreeBelow n x y) :
    AgreeBelow (n + 1) (parallelStateOf x) (parallelStateOf y) := by
  unfold parallelStateOf
  refine record_congr (by rfl) fun es hes => ?_
  simp only [Fields.seq_read, Fields.map_read]
  rw [withDefault_congr ((list_congr h).mono (Nat.le_of_lt hes))]

/-- States of the other kinds hold none, so that only parallel states count. -/
theorem stateBy_congr {n : Nat} {x y : Decoder State} (h : AgreeBelow n x y) :
    AgreeBelow n (stateBy x) (stateBy y) := by
  intro v hv
  cases v with
  | map es =>
    simp only [stateBy, tagged, Value.toDoc, Doc.unmarked]
    split
    · rfl
    · split
      · next k _ =>
        cases k with
        | parallel => exact congrArg _ (h _ hv)
        | _ => rfl
      · rfl
  | _ => rfl

/-- A document that was made from a value carries no marks. -/
theorem marks_toDoc (v : Value) : marks v.toDoc = [] := by
  cases v <;> rfl

/-- **The bound does not matter if it exceeds the depth.** -/
theorem parallelStateIn_toDoc (fuel : Nat) (active : List Nat) {v : Value} (h : v.depth < fuel) :
    parallelStateIn fuel active v.toDoc = parallelStateOf (branchOf state) v.toDoc := by
  induction fuel using Nat.strongRecOn generalizing active v with
  | ind fuel ih =>
    obtain ⟨fuel, rfl⟩ := Nat.exists_eq_add_one_of_ne_zero (by omega : fuel ≠ 0)
    have hagree : AgreeBelow fuel (parallelStateIn fuel active) parallelState := fun w hw =>
      (ih fuel (by omega) active hw).trans
        (ih (w.depth + 1) (by omega) [] (Nat.lt_succ_self _)).symm
    have hmarks := marks_toDoc v
    simp only [parallelStateIn, hmarks, List.any_nil, Bool.false_eq_true, if_false, List.nil_append]
    exact parallelStateOf_congr (branchOf_congr (stateBy_congr hagree)) v (by omega)

/-- A parallel state of a plain document is read by its branches. -/
theorem parallelState_toDoc (v : Value) :
    parallelState v.toDoc = parallelStateOf (branchOf state) v.toDoc :=
  parallelStateIn_toDoc _ _ (Nat.lt_succ_self _)

end Decode
end WorkflowKit
