/-
# The canonical form meets the schema

The fields of the parts and the schema describe one format twice.  `Conforms` pairs what a field
holds with what the schema asks of it, and `Part.table` compares the two descriptions of a part
field by field.  From this what is written for a part has no violations, at any depth
(`Renders.meets`).

Only the clauses for the whole workflow can be violated: a workflow may have no name, and no state
that is marked as a start (`Workflow.findings_document`).
-/

import WorkflowKit.Proofs.Markup.Json
import WorkflowKit.Proofs.Schema.Violation
import WorkflowKit.Validation

namespace WorkflowKit
namespace Decode

open Schema (Target PartName Rule Meets ofPart textPart truthPart countPart wordPart listPart
  textsPart part recordRules recordWith violations violations_ofRules ruleViolations faultTexts
  partViolations violations_record violations_recordWith faultTexts_required)

/-- The schema of an extension record. -/
abbrev extensionPart : Target PartName :=
  part (recordWith "extensionid" [("extensionid", textPart)])

/-- The schema of data paths. -/
abbrev filterPart : Target PartName :=
  part (recordRules
    [("input-path", textPart), ("result-path", textPart), ("output-path", textPart)])

/-- What a field holds, and what the schema asks of it. -/
inductive Conforms : Content → Target PartName → Prop
  /-- A text. -/
  | text : Conforms .text textPart
  /-- A count. -/
  | count : Conforms .count countPart
  /-- A truth value. -/
  | truth : Conforms .truth truthPart
  /-- One of some words, all of which may be. -/
  | word {ws ws' : List String} (h : ws ⊆ ws') : Conforms (.word ws) (wordPart ws')
  /-- An action mode. -/
  | mode : Conforms (.word (ActionMode.all.map ActionMode.text)) (.named .actionMode)
  /-- One word. -/
  | fixed (w : String) : Conforms (.word [w]) (part [.fixed (.text w)])
  /-- A mapping to texts. -/
  | texts : Conforms .texts textsPart
  /-- A list. -/
  | list {c : Content} {t : Target PartName} (h : Conforms c t) :
    Conforms (.list c) (part [.kind .list, .items t])
  /-- A trigger. -/
  | trigger : Conforms (.part .trigger) (.named .trigger)
  /-- A function. -/
  | function : Conforms (.part .function) (.named .function)
  /-- A retry declaration. -/
  | retry : Conforms (.part .retry) (.named .retry)
  /-- An action. -/
  | action : Conforms (.part .action) (.named .action)
  /-- Data paths. -/
  | filter : Conforms (.part .filter) filterPart
  /-- An event condition. -/
  | event : Conforms (.part .event) (.named .event)
  /-- A comparison. -/
  | singleChoice : Conforms (.part (.choice .single)) (.named .singleChoice)
  /-- A choice. -/
  | anyChoice : Conforms .anyChoice (.named .choice)
  /-- A branch. -/
  | branch : Conforms (.part .branch) (.named .branch)
  /-- A state. -/
  | anyState : Conforms .anyState (.named .state)
  /-- An extension record. -/
  | anyExtension : Conforms .anyExtension extensionPart

namespace FieldSpec

/-- Whether a field is written as the schema asks, also if it is not given. -/
def Suits (s : FieldSpec) (t : Target PartName) : Prop :=
  Conforms s.content t ∧ ∀ v, s.fallback = some v → Meets ofPart v t

variable {name : FieldName} {c : Content} {t : Target PartName}

/-- A field that may be left out suits what its content conforms to. -/
@[simp]
theorem suits_plain : (plain name c).Suits t ↔ Conforms c t :=
  and_iff_left fun _ hv => nomatch hv

/-- A flag is always written, as a truth value. -/
@[simp]
theorem suits_flag : (flag name).Suits truthPart := by
  refine ⟨.truth, ?_⟩
  rintro _ ⟨⟩
  rfl

end FieldSpec

/-! ### Scalars -/

/-- Every text is a text for the schema. -/
theorem meets_text (s : Text) : Meets ofPart (.text s) textPart := rfl

/-- The schema asks of a count to be an integer from zero on. -/
theorem meets_count {n : Int} (h : 0 ≤ n) : Meets ofPart (.int n) countPart := by
  have hbelow : Schema.isBelow 0 (.int n) = false := by simpa [Schema.isBelow] using h
  rw [Meets, countPart, part, Target.schema, violations_ofRules (Schema.violations_int _)]
  simp [ruleViolations, faultTexts, Schema.Kind.admits, partViolations, hbelow]

/-- A word is no fault if it is listed. -/
theorem faultTexts_word {w : String} {ws : List String} (h : w ∈ ws) :
    faultTexts (.text (.ofString w)) (.oneOf ws : Rule PartName) = [] := by
  have hany : (ws.any fun w' => (Schema.Literal.text w').admits (.text (.ofString w))) = true :=
    List.any_eq_true.2 ⟨w, h, by simp [Schema.Literal.admits]⟩
  rw [faultTexts, if_pos hany]

/-- A listed word meets the schema of a choice between words. -/
theorem meets_word {w : String} {ws : List String} (h : w ∈ ws) :
    Meets ofPart (.text (.ofString w)) (wordPart ws) := by
  rw [Meets, wordPart, part, Target.schema, violations_ofRules (Schema.violations_text _)]
  simp [ruleViolations, faultTexts_word h, partViolations]

/-- The mode of actions has a definition of its own in the schema. -/
theorem meets_mode {w : String} (h : w ∈ ActionMode.all.map ActionMode.text) :
    Meets ofPart (.text (.ofString w)) (.named .actionMode) := by
  rw [Meets, Target.schema, ofPart, violations_ofRules (Schema.violations_text _)]
  have hkind : faultTexts (.text (.ofString w)) (.kind .text : Rule PartName) = [] := rfl
  simp [ruleViolations, hkind, faultTexts_word h, partViolations]

/-- A fixed word meets the schema that fixes it. -/
theorem meets_fixed (w : String) :
    Meets ofPart (.text (.ofString w)) (part [.fixed (.text w)]) := by
  rw [Meets, part, Target.schema, violations_ofRules (Schema.violations_text _)]
  simp [ruleViolations, faultTexts, Schema.Literal.admits, partViolations]

/-- A word of a field meets all that the schema may ask of the field: a choice between words, the
mode of actions, or one fixed word. -/
theorem Conforms.meets_word {w : String} {ws : List String} {t : Target PartName}
    (h : Conforms (.word ws) t) (hw : w ∈ ws) : Meets ofPart (.text (.ofString w)) t := by
  cases h with
  | word h => exact Decode.meets_word (h hw)
  | mode => exact meets_mode hw
  | fixed => exact List.mem_singleton.1 hw ▸ meets_fixed w

/-! ### The fields of the parts -/

namespace FieldSpec

@[simp]
theorem words_name (name : FieldName) (ws : List String) : (words name ws).name = name := rfl

/-- A field with one of some words suits what such words conform to. -/
@[simp]
theorem suits_words {name : FieldName} {t : Target PartName} {ws : List String} :
    (words name ws).Suits t ↔ Conforms (.word ws) t := by
  refine and_iff_left_of_imp fun h v hv => ?_
  obtain ⟨w, hw, rfl⟩ := Option.map_eq_some_iff.1 hv
  exact h.meets_word (List.mem_of_mem_head? hw)

end FieldSpec

/-- The fields that a schema of records lists. -/
def fieldsOf (t : Target PartName) : List (String × Target PartName) :=
  (t.schema ofPart).clauses.flatMap fun c => c.rules.flatMap fun
    | .fields fs => fs
    | _ => []

/-- Whether the fields of a part suit those that a schema lists. -/
def Part.Suits (p : Part) (fs : List (String × Target PartName)) : Prop :=
  ∀ s ∈ p.specs, ∀ f ∈ fs, s.name.key = f.1 → s.Suits f.2

/-- Lists of a part conform to lists of its schema. -/
theorem conforms_listPart {c : Content} {n : PartName} (h : Conforms c (.named n)) :
    Conforms (.list c) (listPart n) := .list h

/-- Words conform to the choice between them. -/
theorem conforms_word_self (ws : List String) : Conforms (.word ws) (wordPart ws) :=
  .word (List.Subset.refl ws)

/-- The type of a state is one of those that the schema lists. -/
theorem conforms_stateKind (k : StateKind) :
    Conforms (.word [k.text]) (wordPart (StateKind.all.map StateKind.text)) :=
  .word (by cases k <;> decide)

/-- The type of a choice is one of those that the schema lists. -/
theorem conforms_choiceKind (k : ChoiceKind) :
    Conforms (.word [k.text]) (wordPart (ChoiceKind.every.map ChoiceKind.text)) :=
  .word (by cases k <;> decide)

/-- **The fields of a part suit the schema that the part conforms to.** -/
theorem Conforms.suits {r : ExtensionRegistry} {es : List (Scalar × Doc)} {c : Content} {p : Part}
    {t : Target PartName} (h : Conforms c t) (hp : c.Admits r es p) :
    p.Suits (fieldsOf t) := by
  -- The tables of fields are compared entry by entry; only the kinds of choices and states, and the
  -- shapes of extension records, need a case split or a look-up of their own.
  cases h with
  | anyChoice =>
    cases p with
    | choice k =>
      cases k <;> simp [Part.Suits, Part.specs, choiceSpecs, fieldsOf, ofPart, Target.schema,
        Schema.ofRules, Schema.clauses, Schema.Clause.rules, recordWith, FieldSpec.kind, nextState,
        text, singleChoice, conforms_listPart, conforms_choiceKind]
    | _ => exact absurd hp id
  | anyState =>
    cases p with
    | state k =>
      cases k <;> simp [Part.Suits, Part.specs, stateSpecs, fieldsOf, ofPart, Target.schema,
        Schema.ofRules, Schema.clauses, Schema.Clause.rules, recordWith, FieldSpec.kind,
        FieldSpec.mode, nextState, actionMode, waitForCompletion, text, count, mode, event, action,
        filter, anyChoice, branch, conforms_listPart, conforms_word_self, conforms_stateKind]
    | _ => exact absurd hp id
  | anyExtension =>
    cases p with
    | extension s =>
      obtain ⟨id, -, hs⟩ := hp
      rw [Part.Suits, Part.specs, List.forall_mem_cons, List.forall_mem_map]
      refine ⟨?_, fun f hf => ?_⟩
      · simp [fieldsOf, Target.schema, part, Schema.ofRules, Schema.clauses, Schema.Clause.rules,
          recordWith, text]
      · have hne : f.1 ≠ "extensionid" := by
          have hnd := (wellFormed_of_get? hs).names_nodup
          rw [List.nodup_cons] at hnd
          exact fun h => hnd.1 (h ▸ List.mem_cons_of_mem _ (List.mem_map_of_mem hf))
        simp [fieldsOf, Target.schema, part, Schema.ofRules, Schema.clauses, Schema.Clause.rules,
          recordWith, extensionSpec_name, hne]
    | _ => exact absurd hp id
  | filter =>
    cases hp
    simp [Part.Suits, Part.specs, fieldsOf, Target.schema, part, Schema.ofRules, Schema.clauses,
      Schema.Clause.rules, recordRules, text]
  | _ =>
    first
      | exact absurd hp id
      | cases hp
        simp [Part.Suits, Part.specs, choiceSpecs, fieldsOf, ofPart, Target.schema, Schema.ofRules,
          Schema.clauses, Schema.Clause.rules, recordRules, FieldSpec.kind, FieldSpec.mode,
          nextState, actionMode, waitForCompletion, text, count, texts, mode, fixed,
          function, retry, action, anyState, conforms_listPart, conforms_word_self]

/-- A kind that stands under `type` is given, and not as the absent value. -/
theorem HasType.given {es : List (Scalar × Doc)} {w : String} (h : HasType es w) :
    ∃ k d, (FieldSpec.kind w).name.given? es = some (k, d) ∧
      ¬ (FieldSpec.kind w).content.Drops d := by
  obtain ⟨d, hd, htype⟩ := h
  refine ⟨"type", d, ?_, fun hnull => ?_⟩
  · have hkey : Doc.field? (FieldSpec.kind w).name.key es = some d := hd
    rw [FieldName.given?, hkey]
    rfl
  · rw [show d.unmarked = .scalar .null from hnull] at htype
    cases htype

/-- An id that was read was given. -/
theorem given_of_givenId {es : List (Scalar × Doc)} {id : Text}
    (h : (givenId es).unmarked = .scalar (.text id)) :
    ∃ k d, extensionId.given? es = some (k, d) ∧ ¬ Content.text.Drops d := by
  rw [givenId] at h
  split at h
  · next k d hd =>
    refine ⟨k, d, hd, fun hnull => ?_⟩
    rw [show d.unmarked = .scalar .null from hnull] at h
    cases h
  · cases h

/-- The schema that a part conforms to is one of records.  A key that it asks for is that of a field
which is given. -/
theorem Conforms.schema_eq {r : ExtensionRegistry} {es : List (Scalar × Doc)} {c : Content}
    {p : Part} {t : Target PartName} (h : Conforms c t) (hp : c.Admits r es p) :
    t.schema ofPart = Schema.ofRules (recordRules (fieldsOf t)) ∨
      ∃ s ∈ p.specs, t.schema ofPart = Schema.ofRules (recordWith s.name.key (fieldsOf t)) ∧
        ∃ k d, s.name.given? es = some (k, d) ∧ ¬ s.content.Drops d := by
  cases h with
  | anyChoice =>
    cases p with
    | choice k =>
      exact .inr ⟨_, List.mem_cons_self .., rfl, HasType.given hp⟩
    | _ => exact absurd hp id
  | anyState =>
    cases p with
    | state k =>
      exact .inr ⟨_, List.mem_cons_of_mem _ (List.mem_cons_self ..), rfl, HasType.given hp⟩
    | _ => exact absurd hp id
  | anyExtension =>
    cases p with
    | extension s =>
      obtain ⟨id, hid, -⟩ := hp
      exact .inr ⟨_, List.mem_cons_self .., rfl, given_of_givenId hid⟩
    | _ => exact absurd hp id
  | _ => first | exact absurd hp id | exact .inl rfl

/-- The entries of a record meet the schemas of its fields if what is given does. -/
theorem Part.Suits.meets {p : Part} {fs : List (String × Target PartName)} (h : p.Suits fs)
    {es : List (Scalar × Doc)} {cs : List (Text × Value)}
    (declared : ∀ e ∈ cs, ∃ s ∈ p.specs, e.1 = .ofString s.name.key)
    (fields : ∀ s ∈ p.specs, ∀ k d v, s.name.given? es = some (k, d) →
      (.ofString s.name.key, v) ∈ cs → ∀ t, Conforms s.content t → Meets ofPart v t)
    (fallback : ∀ s ∈ p.specs, s.name.given? es = none → ∀ v,
      (.ofString s.name.key, v) ∈ cs ↔ s.fallback = some v) :
    ∀ f ∈ fs, ∀ v, lookup? (.ofString f.1) cs = some v → Meets ofPart v f.2 := by
  intro f hf v hv
  have he := mem_of_lookup? hv
  obtain ⟨s, hs, hkey⟩ := declared _ he
  have hsuits := h s hs f hf (Text.ofString_inj.1 hkey).symm
  rw [show Text.ofString f.1 = .ofString s.name.key from hkey] at he
  cases hgiven : s.name.given? es with
  | none => exact hsuits.2 v ((fallback s hs hgiven v).1 he)
  | some kd => exact fields s hs kd.1 kd.2 v hgiven he _ hsuits.1

/-- **What is written has no violations**, at any depth. -/
theorem Renders.meets {r : ExtensionRegistry} {c : Content} {d : Doc} {v : Value}
    (h : Renders r WrittenTexts c d v) {t : Target PartName} (ht : Conforms c t) :
    Meets ofPart v t := by
  induction h generalizing t with
  | text =>
    cases ht
    exact meets_text _
  | count _ nonneg =>
    cases ht
    exact meets_count nonneg
  | truth =>
    cases ht
    rfl
  | word _ _ mem => exact ht.meets_word mem
  | texts _ written =>
    obtain ⟨m, -, -, rfl⟩ := written
    cases ht
    rw [writtenTexts_eq_map]
    refine Meets.everyField (List.forall_mem_map.2 fun e _ => meets_text _)
  | list _ _ length _ ih =>
    cases ht with
    | list hc =>
      refine Meets.list fun v hv => ?_
      obtain ⟨i, hi, rfl⟩ := List.getElem_of_mem hv
      exact ih i (length ▸ hi) hi hc
  | @record _ p _ es cs given admits _ _ _ declared _ kept fallback ih =>
    have hfields := (ht.suits admits).meets declared
      (fun s hs k d v hgiven he t => ih s hs k d v hgiven he (t := t)) fallback
    rcases ht.schema_eq admits with hschema | ⟨s, hs, hschema, k, d, hgiven, hdrops⟩
    · rw [Meets, hschema]
      exact violations_record hfields
    · obtain ⟨v, hv⟩ := kept s hs k d hgiven hdrops
      rw [Meets, hschema, recordWith, violations_recordWith hfields,
        faultTexts_required (isSome_lookup? hv)]
      rfl
  | plainText => cases ht
  | integer => cases ht

/-! ### The whole workflow -/

/-- The fields that the schema lists for a workflow. -/
abbrev workflowParts : List (String × Target PartName) :=
  [("id", textPart), ("name", textPart), ("version", textPart), ("starts-at", textPart),
    ("trigger-defs", listPart .trigger), ("states", listPart .state), ("metadata", textsPart),
    ("extensions", part [.kind .list, .items extensionPart])]

/-- The fields of a workflow suit those that the schema lists, field by field. -/
theorem workflow_suits : Part.workflow.Suits workflowParts := by
  simp [Part.Suits, Part.specs, Conforms.text, Conforms.texts, Conforms.trigger, Conforms.anyState,
    Conforms.list Conforms.anyExtension, conforms_listPart]

end Decode

open Schema (Target ofPart part recordWith startPart violations violations_ofRules ruleViolations
  faultTexts partViolations)

/-- An entry of a document is found under the key of its field. -/
theorem Member.lookup?_entries (ms : List Member) (key : String) :
    lookup? (.ofString key) (ms.filterMap entry?) = valueOf? ms key := by
  induction ms with
  | nil => rfl
  | cons m ms ih =>
    obtain ⟨k, _ | v⟩ := m
    · rw [valueOf?_cons, Option.none_or, ite_self]
      exact ih
    · have hcons : ((k, some v) :: ms).filterMap entry? =
          (.ofString k, v) :: ms.filterMap entry? := rfl
      rw [hcons, valueOf?_cons, lookup?, List.find?_cons]
      by_cases h : k = key
      · simp [h]
      · have hne : (Text.ofString k == Text.ofString key) = false := by
          simpa [Text.ofString_inj] using h
        simp only [hne, h, if_false]
        exact ih

namespace State

/-- A state is written with the fields that all states have first. -/
theorem exists_document_eq (s : State) :
    ∃ ms, s.document = .ofMembers (s.head.members s.kind ++ ms) := by
  cases s <;> exact ⟨_, by rw [document]; rfl⟩

/-- What is written for a state meets the schema of starts exactly if the state is one. -/
theorem violations_startPart (s : State) :
    Schema.violations ofPart s.document (startPart.schema ofPart) =
      if s.isStart then [] else [⟨[.key "start"], "True was expected", none⟩] := by
  obtain ⟨ms, hms⟩ := s.exists_document_eq
  have hstart : Member.valueOf? (s.head.members s.kind ++ ms) "start" =
      some (.bool s.isStart) := by
    simp [StateHead.members, isStart]
  rw [hms, Value.ofMembers, startPart, part, Target.schema, recordWith,
    violations_ofRules (Schema.violations_map _)]
  simp only [List.flatMap_cons, List.flatMap_nil, ruleViolations, partViolations, faultTexts,
    Schema.lookup?_entryChecks, Member.lookup?_entries, hstart]
  cases s.isStart <;> rfl

end State

namespace Workflow

/-- Some item of the states meets the schema of starts exactly if some state is one. -/
theorem hasItem_startPart (ss : List State) :
    Schema.hasItem ofPart (.list (State.documents ss))
        ⟨Schema.itemChecks ofPart (State.documents ss), []⟩ startPart =
      ss.any State.isStart := by
  rw [Schema.hasItem, Schema.itemChecks_eq_map, State.documents_eq_map, List.map_map, List.any_map]
  refine congrArg (List.any ss) (funext fun s => ?_)
  rw [Function.comp_apply, Function.comp_apply, State.violations_startPart]
  cases s.isStart <;> rfl

/-- A list without an item that meets a schema is found once. -/
theorem inPart_holds (step : Decode.Step) (notice : String) (vs : List Value)
    (t : Target Schema.PartName) :
    Schema.inPart ofPart step (violations ofPart (.list vs))
        (.own (.mk [.mk (some notice) [.holds t]])) =
      if Schema.hasItem ofPart (.list vs) ⟨Schema.itemChecks ofPart vs, []⟩ t then []
      else [⟨[step], "None of " ++ (Value.list vs).display ++ " are valid under the given schema",
        some notice⟩] := by
  rw [Schema.inPart, Target.schema, Schema.violations, Schema.checkWith]
  simp only [Schema.clauses, Schema.Clause.rules, Schema.Clause.notice, List.flatMap_cons,
    List.flatMap_nil, List.append_nil, ruleViolations]
  rw [apply_ite (List.map _)]
  rfl

/-- The findings of the schema about a workflow. -/
def schemaFindings (w : Workflow) : List Diagnostic :=
  (if w.name = none then [⟨.schema, ↑"#: \x27name\x27 is a required property"⟩] else []) ++
    if w.states.any State.isStart then [] else [⟨.schema, ↑Schema.noStartNotice⟩]

/-- The rules for the fields find a missing name. -/
theorem findings_workflowRules {es : List (Text × Value)}
    (h : ∀ f ∈ Decode.workflowParts, ∀ v, lookup? (.ofString f.1) es = some v →
      Schema.Meets ofPart v f.2) :
    (Schema.workflowRules.flatMap
      (ruleViolations ofPart (.map es) ⟨[], Schema.entryChecks ofPart es⟩ none)).map
        Diagnostic.ofViolation =
      if lookup? (.ofString "name") es = none then
        [⟨.schema, ↑"#: \x27name\x27 is a required property"⟩]
      else [] := by
  rw [← violations_ofRules (Schema.violations_map _), Schema.workflowRules, recordWith,
    Schema.violations_recordWith h]
  cases hname : lookup? (.ofString "name") es with
  | none =>
    simp only [faultTexts, List.filter_cons, List.filter_nil, hname]
    decide
  | some v =>
    rw [Schema.faultTexts_required (by rw [hname]; rfl)]
    rfl

/-- The rules for the start find that no state is one. -/
theorem findings_startRules {es : List (Text × Value)} {ss : List State}
    (h : lookup? (.ofString "states") es =
      if ss.isEmpty then none else some (.list (State.documents ss))) :
    (Schema.startRules.flatMap
      (ruleViolations ofPart (.map es) ⟨[], Schema.entryChecks ofPart es⟩
        (some Schema.noStartNotice))).map Diagnostic.ofViolation =
      if ss.any State.isStart then [] else [⟨.schema, ↑Schema.noStartNotice⟩] := by
  cases ss with
  | nil =>
    have hstates : lookup? (.ofString "states") es = none := h
    simp only [Schema.startRules, List.flatMap_cons, List.flatMap_nil, ruleViolations, faultTexts,
      partViolations, Schema.lookup?_entryChecks, hstates, List.filter_cons, List.filter_nil]
    rfl
  | cons s ss =>
    have hstates : lookup? (.ofString "states") es =
      some (.list (State.documents (s :: ss))) := h
    simp only [Schema.startRules, List.flatMap_cons, List.flatMap_nil, ruleViolations, faultTexts,
      partViolations, Schema.lookup?_entryChecks, hstates, List.filter_cons, List.filter_nil,
      Option.map_some, inPart_holds, hasItem_startPart]
    cases (s :: ss).any State.isStart <;> rfl

/-- **The schema finds nothing but a missing name and a missing start.** -/
theorem findings_document {r : ExtensionRegistry} {d : Doc} {w : Workflow}
    (h : Decode.workflow (some r) d = .ok w) :
    (Schema.workflowViolations w.document).map Diagnostic.ofViolation = w.schemaFindings := by
  obtain ⟨cs, hcs, hname, hstates⟩ : ∃ cs, w.document = .map cs ∧
      lookup? (.ofString "name") cs = w.name.map .text ∧ lookup? (.ofString "states") cs =
        if w.states.isEmpty then none else some (.list (State.documents w.states)) := by
    refine ⟨_, rfl, ?_, ?_⟩
    · rw [Member.lookup?_entries]
      simp
    · rw [Member.lookup?_entries]
      cases w.states <;> simp [State.documents]
  have hfields : ∀ f ∈ Decode.workflowParts, ∀ v, lookup? (.ofString f.1) cs = some v →
      Schema.Meets ofPart v f.2 := by
    have hr := Decode.renders_workflow h
    rw [hcs] at hr
    cases hr with
    | record _ admits _ _ _ declared fields _ fallback =>
      cases admits
      exact Decode.workflow_suits.meets declared
        (fun s hs k d v hgiven he t => (fields s hs k d v hgiven he).meets) fallback
  rw [Schema.workflowViolations, hcs, Schema.violations, Schema.checkWith, Schema.ofWorkflow,
    Schema.clauses, List.flatMap_cons, List.flatMap_cons, List.flatMap_nil, List.append_nil,
    List.map_append]
  refine congrArg₂ (· ++ ·) ((findings_workflowRules hfields).trans ?_)
    (findings_startRules hstates)
  simp [hname]

end Workflow
namespace Markup

/-- **The first phase of a validation.** Its diagnostics for the JSON text of a workflow that is
read are a missing name and a missing start, in this order, and no others. -/
theorem ofMarkup_encode {c : Codec} {s m : Text} {w : Workflow} (h : c.decode s = .ok (.ok w))
    (hm : encode .json w = .ok m) : Diagnostic.ofMarkup (some m) = w.schemaFindings := by
  obtain ⟨d, hd⟩ := exists_document_of_decode h
  rw [Diagnostic.ofMarkup, Diagnostic.violationsOfText, read_of_encode hd hm]
  exact Workflow.findings_document hd

/-- A workflow with a start and without a name: of the two findings that are possible the schema has
the one about the name. -/
theorem ofMarkup_encode_nested :
    (⟨.empty, none⟩ : Codec).decode nestedText = .ok (.ok nestedWorkflow) ∧
      ∃ m, encode .json nestedWorkflow = .ok m ∧ Diagnostic.ofMarkup (some m) =
        [⟨.schema, ↑"#: \x27name\x27 is a required property"⟩] := by
  have hm : encode .json nestedWorkflow = .ok ⟨Json.written 0 nestedWorkflow.document⟩ :=
    write_document (w := nestedWorkflow) (by simp [integers_nestedWorkflow])
  exact ⟨decode_nestedText, _, hm, ofMarkup_encode decode_nestedText hm⟩

end Markup
end WorkflowKit
