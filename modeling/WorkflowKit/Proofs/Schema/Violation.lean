/-
# Values without violations

When a value has no violations of a schema: one lemma for each way to build a schema, which goes on
to the parts of the value.
-/

import WorkflowKit.Schema.Violation

namespace WorkflowKit
namespace Schema

variable {N : Type} {define : N → Schema N}

/-- Whether a value meets what is meant by a target. -/
def Meets (define : N → Schema N) (v : Value) (t : Target N) : Prop :=
  violations define v (t.schema define) = []

theorem itemChecks_eq_map (vs : List Value) :
    itemChecks define vs = vs.map (violations define) := by
  induction vs with
  | nil => rfl
  | cons v vs ih => rw [itemChecks, ih, List.map_cons]

theorem entryChecks_eq_map (es : List (Text × Value)) :
    entryChecks define es = es.map fun e => (e.1, violations define e.2) := by
  induction es with
  | nil => rfl
  | cons e es ih => rw [entryChecks, ih, List.map_cons]

theorem lookup?_entryChecks (k : Text) (es : List (Text × Value)) :
    lookup? k (entryChecks define es) = (lookup? k es).map (violations define) := by
  induction es with
  | nil => rfl
  | cons e es ih =>
    rw [entryChecks, lookup?, lookup?, List.find?_cons, List.find?_cons]
    cases h : e.1 == k with
    | true => rfl
    | false => exact ih

theorem violations_list (vs : List Value) :
    violations define (.list vs) = checkWith define (.list vs) ⟨itemChecks define vs, []⟩ := rfl

theorem violations_map (es : List (Text × Value)) :
    violations define (.map es) = checkWith define (.map es) ⟨[], entryChecks define es⟩ := rfl

theorem violations_int (n : Int) :
    violations define (.int n) = checkWith define (.int n) ⟨[], []⟩ := rfl

theorem violations_text (s : Text) :
    violations define (.text s) = checkWith define (.text s) ⟨[], []⟩ := rfl

/-- The violations of a schema of one clause without a notice. -/
theorem violations_ofRules {v : Value} {parts : Parts N}
    (hv : violations define v = checkWith define v parts) (rs : List (Rule N)) :
    violations define v (ofRules rs) = rs.flatMap (ruleViolations define v parts none) := by
  rw [hv, checkWith, ofRules, clauses, List.flatMap_singleton]
  rfl

@[simp]
theorem partViolations_kind (parts : Parts N) (k : Kind) :
    partViolations define parts (.kind k) = [] := rfl

@[simp]
theorem partViolations_required (parts : Parts N) (keys : List String) :
    partViolations define parts (.required keys) = [] := rfl

theorem inPart_eq_nil {step : Decode.Step} {v : Value} {t : Target N} (h : Meets define v t) :
    inPart define step (violations define v) t = [] := by
  rw [inPart, h]
  rfl

/-- A list meets a schema of items if its items meet it. -/
theorem Meets.list {vs : List Value} {t : Target N} (h : ∀ v ∈ vs, Meets define v t) :
    Meets define (.list vs) (.own (ofRules [.kind .list, .items t])) := by
  have hitems : partViolations define ⟨itemChecks define vs, []⟩ (.items t) = [] := by
    rw [partViolations, List.flatMap_eq_nil_iff]
    intro e he
    have hmem := List.fst_mem_of_mem_zipIdx he
    rw [itemChecks_eq_map, List.mem_map] at hmem
    obtain ⟨v, hv, hcheck⟩ := hmem
    rw [← hcheck, inPart_eq_nil (h v hv)]
  rw [Meets, Target.schema, violations_ofRules (violations_list _)]
  simp [ruleViolations, faultTexts, Kind.admits, hitems]

/-- The values of a mapping that are found meet the schemas of its fields. -/
theorem partViolations_fields {es : List (Text × Value)} {fs : List (String × Target N)}
    (h : ∀ f ∈ fs, ∀ v, lookup? (.ofString f.1) es = some v → Meets define v f.2) :
    partViolations define ⟨[], entryChecks define es⟩ (.fields fs) = [] := by
  rw [partViolations, List.flatMap_eq_nil_iff]
  intro f hf
  rw [lookup?_entryChecks]
  cases hv : lookup? (.ofString f.1) es with
  | none => rfl
  | some v => exact inPart_eq_nil (h f hf v hv)

/-- A mapping meets a schema of all values if its values meet it. -/
theorem Meets.everyField {es : List (Text × Value)} {t : Target N}
    (h : ∀ e ∈ es, Meets define e.2 t) :
    Meets define (.map es) (.own (ofRules [.kind .mapping, .everyField t])) := by
  have hall : partViolations define ⟨[], entryChecks define es⟩ (.everyField t) = [] := by
    rw [partViolations, List.flatMap_eq_nil_iff, entryChecks_eq_map, List.forall_mem_map]
    exact fun e he => inPart_eq_nil (h e he)
  rw [Meets, Target.schema, violations_ofRules (violations_map _)]
  simp [ruleViolations, faultTexts, Kind.admits, hall]

/-- A record has no violations if its fields meet their schemas. -/
theorem violations_record {es : List (Text × Value)} {fs : List (String × Target N)}
    (h : ∀ f ∈ fs, ∀ v, lookup? (.ofString f.1) es = some v → Meets define v f.2) :
    violations define (.map es) (ofRules [.kind .mapping, .fields fs]) = [] := by
  rw [violations_ofRules (violations_map _)]
  simp [ruleViolations, partViolations_fields h, Kind.admits, faultTexts]

/-- The violations of a record whose fields meet their schemas: the keys that are missing. -/
theorem violations_recordWith {es : List (Text × Value)} {fs : List (String × Target N)}
    (h : ∀ f ∈ fs, ∀ v, lookup? (.ofString f.1) es = some v → Meets define v f.2)
    (keys : List String) :
    violations define (.map es) (ofRules [.kind .mapping, .required keys, .fields fs]) =
      (faultTexts (.map es) (.required keys : Rule N)).map fun text => ⟨[], text, none⟩ := by
  rw [violations_ofRules (violations_map _)]
  simp [ruleViolations, partViolations_fields h, Kind.admits, faultTexts]

/-- A key that is there is not missing. -/
theorem faultTexts_required {es : List (Text × Value)} {key : String}
    (h : (lookup? (.ofString key) es).isSome) :
    faultTexts (.map es) (.required [key] : Rule N) = [] := by
  simp [faultTexts, Option.isNone_eq_false_iff.2 h]

end Schema
end WorkflowKit
