/-
# Validation does not depend on the order

Whatever the flags of a manager are, a validation finds the same in a workflow that was read and in
the same workflow with its states and its triggers in another order, each finding as often
(`Manager.findings_perm`).

Both phases have to be looked at.  The second finds the same flaws (`Workflow.flaws_perm`).  The
first looks at the JSON text, so it finds nothing at all where there is none.  There is one in every
order or in none (`Workflow.integers_perm`), and what the schema finds in it is known because the
workflow in the other order can be read as well (`Decode.exists_workflow_perm`).
-/

import WorkflowKit.Proofs.Decode.Order
import WorkflowKit.Proofs.Manager.Validation
import WorkflowKit.Proofs.Workflow.Order

namespace WorkflowKit

/-! ### The first phase -/

namespace Workflow

variable {w : Workflow} {ss : List State} {ts : List Trigger}

/-- The integers are the same in any order of the states. -/
theorem integers_perm (hs : ss.Perm w.states) :
    (integers { w with states := ss, triggers := ts }).Perm w.integers := by
  rw [integers, integers, allStates, allStates, State.allWithInner_eq_flatMap,
    State.allWithInner_eq_flatMap]
  exact ((hs.flatMap_right _).flatMap_right _).append_right _

theorem schemaFindings_perm (hs : ss.Perm w.states) :
    schemaFindings { w with states := ss, triggers := ts } = w.schemaFindings := by
  have hstart : ss.any State.isStart = w.states.any State.isStart := hs.any_eq
  rw [schemaFindings, schemaFindings, hstart]

/-- The first phase finds nothing in a workflow with an integer that is too long: it has no
text. -/
theorem ofMarkup_toOption_encode {r : ExtensionRegistry} {d : Doc}
    (h : Decode.workflow (some r) d = .ok w) :
    Diagnostic.ofMarkup (Markup.encode .json w).toOption =
      if w.integers.any Number.exceedsDigitLimit then [] else w.schemaFindings := by
  rw [← holdsLongInt_document, Markup.encode, Markup.write, Json.write]
  split
  · rfl
  · next hlong =>
    have hread : Json.read ⟨Json.written 0 w.document⟩ = .ok w.document :=
      Json.read_write (Markup.plain_document h) (if_neg hlong)
    rw [Except.toOption, Diagnostic.ofMarkup, Diagnostic.violationsOfText, hread]
    exact findings_document h

end Workflow

namespace Manager

open Flaw (repeatedState repeatedTrigger)

variable {m : Manager} {settings : Settings} {providers : Providers}
  {properties : Option (List (String × Value))} {around : Surroundings}

/-- What a validation finds in a workflow. -/
def findings (m : Manager) (w : Workflow) : List Diagnostic :=
  ((m.after (.replace (some w))).after .validate).diagnostics

theorem findings_eq (m : Manager) (w : Workflow) :
    m.findings w = Diagnostic.all m.validator.flags (m.write .json w) (some w) := rfl

/-- What the first phase finds is not about flaws. -/
theorem count_ofMarkup (markup : Option Text) (f : Flaw) :
    (Diagnostic.ofMarkup markup).count (.ofFlaw f) = 0 := by
  refine List.count_eq_zero.2 fun h => ?_
  cases markup with
  | none => cases h
  | some s =>
    obtain ⟨v, -, hv⟩ := List.mem_map.1 h
    cases congrArg Diagnostic.phase hv

theorem ofFlaw_injective : Function.Injective Diagnostic.ofFlaw := fun _ _ h =>
  Flaw.message_injective (congrArg Diagnostic.message h)

/-- A flaw is found as often as the workflow has it. -/
theorem count_findings {w : Workflow} (henabled : m.validator.flags.enabled = true) (f : Flaw) :
    (m.findings w).count (.ofFlaw f) = (w.flaws m.validator.flags.strict).count f := by
  have hschema : (if m.validator.flags.schema then Diagnostic.ofMarkup (m.write .json w)
      else []).count (.ofFlaw f) = 0 := by
    split
    · exact count_ofMarkup _ f
    · rfl
  rw [findings_eq, Diagnostic.all, if_pos henabled, List.count_append, hschema, Nat.zero_add]
  exact List.count_map_of_injective _ _ ofFlaw_injective f

/-- **Validation does not depend on the order.**  In a workflow that was read a validation finds
the same whatever the order of its states and its triggers, each finding as often; and it finds as
often that a name is repeated as other things have the name already. -/
theorem findings_perm {c : Markup.Codec} {s : Text} {w : Workflow} {ss : List State}
    {ts : List Trigger} (hm : make settings providers properties around = .ok m)
    (ops : List Operation) (h : c.decode s = .ok (.ok w)) (hs : ss.Perm w.states)
    (ht : ts.Perm w.triggers) :
    ((m.run ops).findings { w with states := ss, triggers := ts }).Perm ((m.run ops).findings w) ∧
      ((m.run ops).validator.flags.enabled = true → ∀ n, ¬ IsBlank (some n) →
        ((m.run ops).findings { w with states := ss, triggers := ts }).count
            (.ofFlaw (repeatedState n)) = w.states.countP (fun s => s.name == some n) - 1 ∧
          ((m.run ops).findings { w with states := ss, triggers := ts }).count
            (.ofFlaw (repeatedTrigger n)) = w.triggers.countP (fun t => t.name == some n) - 1) := by
  obtain ⟨d, hd⟩ := Markup.exists_document_of_decode h
  obtain ⟨d', hd'⟩ := Decode.exists_workflow_perm hd hs ht
  have hwrite : (m.run ops).write = _ := (write_run ops).trans (write_of_make hm)
  have hfirst :
      Diagnostic.ofMarkup ((m.run ops).write .json { w with states := ss, triggers := ts }) =
        Diagnostic.ofMarkup ((m.run ops).write .json w) := by
    rw [hwrite]
    dsimp only
    rw [Workflow.ofMarkup_toOption_encode hd', Workflow.ofMarkup_toOption_encode hd,
      (Workflow.integers_perm hs).any_eq, Workflow.schemaFindings_perm hs]
  refine ⟨?_, fun henabled n hn => ⟨?_, ?_⟩⟩
  · rw [findings_eq, findings_eq, Diagnostic.all, Diagnostic.all, hfirst]
    split
    · exact ((Workflow.flaws_perm hs ht).map _).append_left _
    · exact .nil
  · rw [count_findings henabled, Workflow.count_repeatedState hn, hs.countP_eq]
  · rw [count_findings henabled, Workflow.count_repeatedTrigger hn, ht.countP_eq]

/-- A text in which a name of states stands around a blank one, and a name of triggers twice. -/
def repeatedText : Text :=
  ↑("\x7b\"name\": \"order\", \"trigger-defs\": [\x7b\"name\": \"paid\"\x7d, " ++
    "\x7b\"name\": \"paid\", \"correlation-token\": \"id\"\x7d], \"states\": [" ++
    "\x7b\"type\": \"DELAY\", \"name\": \"wait\", \"start\": true\x7d, " ++
    "\x7b\"type\": \"END\", \"name\": \" \"\x7d, " ++
    "\x7b\"type\": \"END\", \"name\": \"wait\"\x7d]\x7d")

/-- The workflow of `repeatedText`. -/
def repeatedWorkflow : Workflow where
  id := none
  name := some ↑"order"
  version := none
  startsAt := none
  triggers := [⟨some ↑"paid", none, none, none⟩, ⟨some ↑"paid", none, none, some ↑"id"⟩]
  states := [.delay ⟨some ↑"wait", true, false⟩ none none,
    .finish ⟨some ↑" ", false, false⟩ .success, .finish ⟨some ↑"wait", false, false⟩ .success]
  metadata := .empty
  extensions := []

/-- A workflow with a name that two states have, and the same workflow backwards: the findings about
both are the same but for their order, and the repetition is found once. -/
theorem findings_perm_reverse :
    ∃ m, make plainSettings (.standard plainSettings) none ⟨[], fun _ => none⟩ = .ok m ∧
      (⟨.empty, none⟩ : Markup.Codec).decode repeatedText = .ok (.ok repeatedWorkflow) ∧
      (m.findings { repeatedWorkflow with
        states := repeatedWorkflow.states.reverse
        triggers := repeatedWorkflow.triggers.reverse }).Perm (m.findings repeatedWorkflow) ∧
      (m.findings { repeatedWorkflow with
        states := repeatedWorkflow.states.reverse
        triggers := repeatedWorkflow.triggers.reverse }).count
          (.ofFlaw (repeatedState ↑"wait")) = 1 := by
  have hdecode : (⟨.empty, none⟩ : Markup.Codec).decode repeatedText =
      .ok (.ok repeatedWorkflow) := by
    cbv
  obtain ⟨m, hm, hflags⟩ : ∃ m, make plainSettings (.standard plainSettings) none
      ⟨[], fun _ => none⟩ = .ok m ∧ m.validator.flags = Settings.standardFlags := ⟨_, rfl, rfl⟩
  have henabled : m.validator.flags.enabled = true := hflags ▸ rfl
  have hname : ¬ IsBlank (some ↑"wait") := by
    rw [← Flaw.isBlank_iff]
    decide
  obtain ⟨hperm, hcount⟩ := findings_perm hm [] hdecode (List.reverse_perm _)
    (List.reverse_perm _)
  exact ⟨m, hm, hdecode, hperm, (hcount henabled _ hname).1.trans (by decide)⟩

end Manager
end WorkflowKit
