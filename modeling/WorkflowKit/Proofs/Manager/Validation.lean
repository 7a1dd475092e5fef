/-
# What a validation finds

A validation finds nothing in a workflow that was read exactly if the workflow makes sense
(`Manager.isClean_validate`), whether or not the schema is checked: the schema finds nothing but a
missing name and a missing start (`Workflow.findings_document`), and both are flaws.

The statement is about managers that were made and then changed in any way.  All that it needs of
their past is that no operation changes how workflows are written (`Manager.write_run`).
-/

import WorkflowKit.Manager
import WorkflowKit.Proofs.Markup.Schema
import WorkflowKit.Proofs.Workflow.Flaw

namespace WorkflowKit

theorem Workflow.schemaFindings_eq_nil {w : Workflow} :
    w.schemaFindings = [] ↔ w.name ≠ none ∧ ∃ s ∈ w.states, s.isStart = true := by
  rw [schemaFindings, List.append_eq_nil_iff, ← List.any_eq_true]
  cases w.states.any State.isStart <;> by_cases h : w.name = none <;> simp [h]

/-- The schema finds nothing in a workflow that makes sense. -/
theorem Workflow.IsSound.schemaFindings {w : Workflow} {strict : Bool} (h : w.IsSound strict) :
    w.schemaFindings = [] := by
  refine schemaFindings_eq_nil.2 ⟨fun hname => h.named ?_, ?_⟩
  · rw [hname]
    rintro t ⟨⟩
  · exact List.countP_pos_iff.1 (h.start ▸ Nat.one_pos)

namespace Manager

variable {m : Manager} {settings : Settings} {providers : Providers}
  {properties : Option (List (String × Value))} {around : Surroundings}

theorem write_of_make (h : make settings providers properties around = .ok m) :
    m.write = fun format w => (Markup.encode format w).toOption := by
  rw [make] at h
  cases hevaluators : providers.evaluators.get .evaluators <;>
    cases hvalidator : providers.validator.get .validator <;> rw [hevaluators, hvalidator] at h <;>
      cases h
  rfl

theorem write_of_perform {op : Operation} {n : Manager} (h : m.perform op = .ok n) :
    n.write = m.write := by
  cases op with
  | load markup =>
    rw [perform] at h
    cases hread : m.read markup <;> rw [hread] at h <;> cases h
    rfl
  | registerExtension id type =>
    rw [perform] at h
    split at h <;> cases h
    rfl
  | setEvaluator e =>
    rw [perform] at h
    split at h <;> cases h
    rfl
  | _ =>
    cases h
    rfl

theorem write_after (op : Operation) : (m.after op).write = m.write := by
  rw [after]
  split
  · exact write_of_perform ‹_›
  · rfl

theorem write_run (ops : List Operation) : (m.run ops).write = m.write := by
  induction ops generalizing m with
  | nil => rfl
  | cons op ops ih =>
    rw [run, List.foldl_cons]
    exact ih.trans (write_after op)

/-- The diagnostics of a validation. -/
theorem diagnostics_validate :
    (m.after .validate).diagnostics =
      Diagnostic.all m.validator.flags (m.text? .json) m.workflow := rfl

/-- **Exact validity.** A validation finds nothing in a workflow that was read exactly if the
workflow makes sense (`Workflow.IsSound`), with or without the schema: what the schema could object
to in a workflow that was read, the second phase finds as well.  The manager may have carried out
any operations before. -/
theorem isClean_validate {c : Markup.Codec} {s : Text} {w : Workflow} {ops : List Operation}
    (hm : make settings providers properties around = .ok m)
    (hw : (m.run ops).workflow = some w) (h : c.decode s = .ok (.ok w))
    (henabled : (m.run ops).validator.flags.enabled = true) :
    ((m.run ops).after .validate).isClean = true ↔
      w.IsSound (m.run ops).validator.flags.strict := by
  obtain ⟨d, hd⟩ := Markup.exists_document_of_decode h
  have hwrite : (m.run ops).write = _ := (write_run ops).trans (write_of_make hm)
  -- The text of the workflow, if it has one, is found to lack a name or a start at most.
  have hmarkup (hsound : w.IsSound (m.run ops).validator.flags.strict) :
      Diagnostic.ofMarkup ((m.run ops).text? .json) = [] := by
    rw [text?, hw, Option.bind_some, hwrite]
    dsimp only
    cases ht : Markup.encode .json w with
    | error f => rfl
    | ok t =>
      rw [Except.toOption, Diagnostic.ofMarkup, Diagnostic.violationsOfText,
        Markup.read_of_encode hd ht]
      exact (Workflow.findings_document hd).trans hsound.schemaFindings
  rw [isClean, diagnostics_validate, List.isEmpty_iff, Diagnostic.all, if_pos henabled, hw,
    Diagnostic.ofWorkflow, List.append_eq_nil_iff, List.map_eq_nil_iff, Workflow.flaws_eq_nil]
  refine ⟨And.right, fun hsound => ⟨?_, hsound⟩⟩
  split
  · exact hmarkup hsound
  · rfl

/-- A text with two states and a trigger. -/
def orderText : Text :=
  ↑("\x7b\"name\": \"order\", \"trigger-defs\": [\x7b\"name\": \"paid\", " ++
    "\"correlation-token\": \"id\"\x7d], \"states\": [\x7b\"type\": \"DELAY\", " ++
    "\"name\": \"wait\", \"start\": true, \"next-state\": \"done\"\x7d, " ++
    "\x7b\"type\": \"END\", \"name\": \"done\"\x7d]\x7d")

/-- The workflow of `orderText`. -/
def orderWorkflow : Workflow where
  id := none
  name := some ↑"order"
  version := none
  startsAt := none
  triggers := [⟨some ↑"paid", none, none, some ↑"id"⟩]
  states := [.delay ⟨some ↑"wait", true, false⟩ none (some ↑"done"),
    .finish ⟨some ↑"done", false, false⟩ .success]
  metadata := .empty
  extensions := []

/-- Settings without properties and variables. -/
def plainSettings : Settings :=
  ⟨"orders", .dev, false, "INFO", none, [], "attribute", Settings.standardFlags⟩

/-- It makes sense, also if its ends count. -/
theorem isSound_orderWorkflow : orderWorkflow.IsSound true :=
  Workflow.flaws_eq_nil.1 (by decide +kernel)

/-- The workflow of an order makes sense, also strictly: a manager that was given it and told to be
strict finds nothing. -/
theorem isClean_validate_order :
    ∃ m, make plainSettings (.standard plainSettings) none ⟨[], fun _ => none⟩ = .ok m ∧
      (m.run [.replace (some orderWorkflow), .setStrict true]).workflow = some orderWorkflow ∧
      (⟨.empty, none⟩ : Markup.Codec).decode orderText = .ok (.ok orderWorkflow) ∧
      (m.run [.replace (some orderWorkflow), .setStrict true]).validator.flags.enabled = true ∧
      ((m.run [.replace (some orderWorkflow), .setStrict true]).after .validate).isClean =
        true := by
  have hdecode : (⟨.empty, none⟩ : Markup.Codec).decode orderText = .ok (.ok orderWorkflow) := by
    cbv
  obtain ⟨m, hm, hflags⟩ : ∃ m, make plainSettings (.standard plainSettings) none
      ⟨[], fun _ => none⟩ = .ok m ∧ m.validator.flags = Settings.standardFlags := ⟨_, rfl, rfl⟩
  have henabled : m.validator.flags.enabled = true := hflags ▸ rfl
  exact ⟨m, hm, rfl, hdecode, henabled,
    Iff.mpr (isClean_validate hm rfl hdecode henabled) isSound_orderWorkflow⟩

end Manager
end WorkflowKit
