/-
# No request is left half done

A program may fail between two assignments.  Those that serve the requests of a manager do not:
what can be refused is refused before anything is assigned.  So serving an operation is carrying it
out as a whole (`Manager.step_of_ok`) or not at all (`Manager.step_of_error`), and a question
assigns nothing (`Manager.step_question`).

From the three kinds of requests follows what a session preserves (`Manager.session_of_make`).
-/

import WorkflowKit.Manager.Session
import WorkflowKit.Proofs.Manager.Validation

namespace WorkflowKit
namespace Manager

/-! ## Programs -/

/-- The manager with other diagnostics. -/
def withDiagnostics (m : Manager) (ds : List Diagnostic) : Manager :=
  { m with validator := { m.validator with diagnostics := ds } }

namespace Program

variable {α β : Type} {x : Program α} {f : α → Program β} {m n : Manager}

/-- After a step that succeeded the program goes on from the state that the step left. -/
theorem run_bind_of_ok {a : α} (h : x.run m = .ok a n) : (x >>= f).run m = (f a).run n := by
  show EStateM.bind x f m = _
  rw [EStateM.bind, show x m = .ok a n from h]
  rfl

/-- After a failure nothing more is assigned, and the state is the one that the failing step left.
-/
theorem run_bind_of_error {e : RequestFault} (h : x.run m = .error e n) :
    (x >>= f).run m = .error e n := by
  show EStateM.bind x f m = _
  rw [EStateM.bind, show x m = .error e n from h]

/-- Looking at the state changes nothing. -/
theorem run_get : (get : Program Manager).run m = .ok m m := rfl

/-- Adding diagnostics one by one adds them all, and changes nothing else. -/
theorem run_addAll (ds : List Diagnostic) :
    (addAll ds).run m = .ok () (m.withDiagnostics (m.diagnostics ++ ds)) := by
  induction ds generalizing m with
  | nil =>
    rw [List.append_nil]
    rfl
  | cons d ds ih =>
    have hone : (onValidator (·.add d)).run m = .ok () (m.withDiagnostics (m.diagnostics ++ [d])) :=
      rfl
    rw [addAll, List.forM_cons, run_bind_of_ok hone]
    refine ih.trans ?_
    show EStateM.Result.ok () (m.withDiagnostics ((m.diagnostics ++ [d]) ++ ds)) = _
    rw [List.append_assoc, List.singleton_append]

/-- The first phase adds the findings of the schema about the JSON form, if it is asked for. -/
theorem run_checkMarkup :
    checkMarkup.run m = .ok () (m.withDiagnostics (m.diagnostics ++
      if m.validator.flags.schema then Diagnostic.ofMarkup (m.text? .json) else [])) := by
  rw [checkMarkup, run_bind_of_ok run_get]
  split
  · exact run_addAll _
  · rw [List.append_nil]
    rfl

/-- The second phase adds the findings about the workflow. -/
theorem run_checkWorkflow :
    checkWorkflow.run m = .ok () (m.withDiagnostics (m.diagnostics ++
      Diagnostic.ofWorkflow m.workflow m.validator.flags.strict)) := by
  rw [checkWorkflow, run_bind_of_ok run_get]
  exact run_addAll _

/-- What the first phase adds does not change what the second phase finds. -/
theorem run_check :
    check.run m = .ok () (m.withDiagnostics (m.diagnostics ++
      Diagnostic.all m.validator.flags (m.text? .json) m.workflow)) := by
  rw [check, run_bind_of_ok run_get, Diagnostic.all]
  split
  · rw [run_bind_of_ok run_checkMarkup, run_checkWorkflow]
    show EStateM.Result.ok () (m.withDiagnostics ((m.diagnostics ++ _) ++ _)) = _
    rw [List.append_assoc]
    rfl
  · rw [List.append_nil]
    rfl

/-- Validating resets the diagnostics and adds those of both phases, as the operation says. -/
theorem run_validate : validate.run m = .ok () (m.after .validate) := by
  have hclear : clear.run m = .ok () (m.withDiagnostics []) := rfl
  rw [validate, run_bind_of_ok hclear]
  exact run_check

/-! ### What may be refused -/

/-- A program carries out a change as a whole, or assigns nothing. -/
def Carries (x : Program Unit) (m : Manager) : Except OperationFault Manager → Prop
  | .ok n => x.run m = .ok () n
  | .error f => x.run m = .error (.refused f) m

/-- A program that first reads, and then assigns unless what it reads is refused, carries out the
change that does the same. -/
theorem carries_assign {ε α : Type} (read : Manager → Except ε α) (fault : ε → OperationFault)
    (assign : α → Manager → Manager) {change : Except OperationFault Manager}
    (hok : ∀ a, read m = .ok a → change = .ok (assign a m))
    (herror : ∀ e, read m = .error e → change = .error (fault e)) :
    Carries (do
      let a ← ofExcept ((read (← get)).mapError fun e => RequestFault.refused (fault e))
      modify (assign a)) m change := by
  cases hread : read m with
  | ok a =>
    rw [hok a hread, Carries, run_bind_of_ok run_get, hread]
    rfl
  | error e =>
    rw [herror e hread, Carries, run_bind_of_ok run_get, hread]
    rfl

/-- A workflow is decoded before it is given, so a text that is refused changes nothing. -/
theorem carries_load (markup : Text) : (load markup).Carries m (m.perform (.load markup)) := by
  refine carries_assign (fun m => m.read markup) id (fun w m => { m with workflow := some w })
    (fun w hw => ?_) (fun f hf => ?_)
  · rw [Manager.perform, hw]
    rfl
  · rw [Manager.perform, hf]
    rfl

/-- A record type is looked at before it is registered, so one that is refused changes nothing. -/
theorem carries_registerExtension (id : Text) (type : RecordType) :
    (registerExtension id type).Carries m (m.perform (.registerExtension id type)) := by
  refine carries_assign (fun m => m.codec.extensions.register id type) .registration
    (fun r m => { m with codec := { m.codec with extensions := r } })
    (fun r hr => ?_) (fun f hf => ?_)
  · rw [Manager.perform, hr]
  · rw [Manager.perform, hf]

/-- Once an evaluator is registered, nothing keeps it from becoming the default. -/
theorem carries_setEvaluator (e : Evaluator) :
    (setEvaluator e).Carries m (m.perform (.setEvaluator e)) := by
  rw [setEvaluator, Manager.perform]
  cases hr : m.evaluators.register e.name e with
  | ok r =>
    have hregister : (register e).Carries m (.ok { m with evaluators := r }) :=
      carries_assign (fun m => m.evaluators.register e.name e) .evaluator
        (fun r m => { m with evaluators := r }) (by simp [hr]) (by simp [hr])
    rw [Carries, run_bind_of_ok hregister]
    rfl
  | error f =>
    have hregister : (register e).Carries m (.error (.evaluator f)) :=
      carries_assign (fun m => m.evaluators.register e.name e) .evaluator
        (fun r m => { m with evaluators := r }) (by simp [hr]) (by simp [hr])
    exact run_bind_of_error hregister

/-- **The program of an operation carries it out as a whole, or assigns nothing.** -/
theorem carries_perform (op : Operation) : (perform op).Carries m (m.perform op) := by
  cases op with
  | load markup => exact carries_load markup
  | registerExtension id type => exact carries_registerExtension id type
  | setEvaluator e => exact carries_setEvaluator e
  | validate => exact run_validate
  | _ => rfl

end Program

/-! ## Steps -/

open Program in
/-- An operation that succeeds leaves the state that it describes. -/
theorem step_of_ok {m n : Manager} {op : Operation} (h : m.perform op = .ok n) :
    m.step (.operation op) = ⟨m, .operation op, .ok (n.replyTo op), n⟩ := by
  have hrun := carries_perform (m := m) op
  rw [h] at hrun
  rw [step, serve, run_bind_of_ok hrun]
  rfl

open Program in
/-- An operation that is refused leaves the state as it was. -/
theorem step_of_error {m : Manager} {op : Operation} {f : OperationFault}
    (h : m.perform op = .error f) :
    m.step (.operation op) = ⟨m, .operation op, .error (.refused f), m⟩ := by
  have hrun := carries_perform (m := m) op
  rw [h] at hrun
  rw [step, serve, run_bind_of_error hrun]

open Program in
/-- To ask whether the workflow is valid is to validate it, and to look whether a finding is left.
-/
theorem step_isValid (m : Manager) :
    m.step .isValid =
      ⟨m, .isValid, .ok (.verdict (m.after .validate).isClean), m.after .validate⟩ := by
  rw [step, serve, run_bind_of_ok run_validate]
  rfl

/-- A question leaves the state as it was. -/
theorem step_question (m : Manager) (q : Question) :
    m.step (.question q) = ⟨m, .question q, m.answer q, m⟩ := by
  rw [step, serve, Program.run_bind_of_ok Program.run_get]
  cases m.answer q <;> rfl

/-- A request that validates the workflow. -/
def Request.Validates (r : Request) : Prop := r = .operation .validate ∨ r = .isValid

/-- A step leaves nothing half done. -/
structure Step.IsAtomic (s : Step) : Prop where
  /-- A request that fails changes nothing. -/
  failed : ∀ f, s.reply = .error f → s.after = s.before
  /-- A question changes nothing, be it answered or not. -/
  question : ∀ q, s.request = .question q → s.after = s.before
  /-- A validation changes nothing but the diagnostics. -/
  validation : s.request.Validates → s.after = s.before.withDiagnostics s.after.diagnostics

/-- **Each step is atomic**, by the three kinds of requests. -/
theorem isAtomic_step (m : Manager) (r : Request) : (m.step r).IsAtomic := by
  cases r with
  | operation op =>
    cases h : m.perform op with
    | ok n =>
      rw [step_of_ok h]
      refine ⟨nofun, nofun, ?_⟩
      rintro (⟨⟨⟩⟩ | ⟨⟨⟩⟩)
      cases h
      rfl
    | error f =>
      rw [step_of_error h]
      refine ⟨fun _ _ => rfl, nofun, ?_⟩
      rintro (⟨⟨⟩⟩ | ⟨⟨⟩⟩)
      cases h
  | isValid =>
    rw [step_isValid]
    exact ⟨nofun, nofun, fun _ => rfl⟩
  | question q =>
    rw [step_question]
    exact ⟨fun _ _ => rfl, fun _ _ => rfl, fun _ => rfl⟩

/-- The workflow that a step gives, if its request is one that gives a workflow and succeeds. -/
def Step.given (s : Step) : Option (Option Workflow) :=
  match s.reply, s.request with
  | .ok _, .operation (.load markup) => (s.before.read markup).toOption.map some
  | .ok _, .operation (.replace w) => some w
  | _, _ => none

/-- After a step the manager has the workflow that the step gives, or the one from before. -/
theorem workflow_step (m : Manager) (r : Request) :
    (m.step r).after.workflow = (m.step r).given.getD m.workflow := by
  cases r with
  | operation op =>
    cases h : m.perform op with
    | ok n =>
      rw [step_of_ok h]
      -- Of the operations only the first two give a workflow; the others leave it in their every
      -- branch.
      cases op with
      | load markup =>
        rw [perform] at h
        cases hread : m.read markup with
        | ok w =>
          rw [hread] at h
          cases h
          show some w = ((m.read markup).toOption.map some).getD _
          rw [hread]
          rfl
        | error f =>
          rw [hread] at h
          cases h
      | registerExtension id type =>
        rw [perform] at h
        split at h <;> cases h
        rfl
      | setEvaluator e =>
        rw [perform] at h
        split at h <;> cases h
        rfl
      | _ =>
        cases h
        rfl
    | error f =>
      rw [step_of_error h]
      rfl
  | isValid =>
    rw [step_isValid]
    rfl
  | question q =>
    rw [step_question]
    cases m.answer q <;> rfl

/-! ## Sessions -/

/-- What a request carries out: to ask whether the workflow is valid is to validate it. -/
def Request.operation? : Request → Option Operation
  | .operation op => some op
  | .isValid => some .validate
  | .question _ => none

/-- A step leaves the state that its operation does, if it carries one out. -/
theorem after_step (m : Manager) (r : Request) :
    (m.step r).after = m.run r.operation?.toList := by
  cases r with
  | operation op =>
    show _ = m.after op
    rw [after]
    cases h : m.perform op with
    | ok n => rw [step_of_ok h]
    | error f => rw [step_of_error h]
  | isValid =>
    rw [step_isValid]
    rfl
  | question q =>
    rw [step_question]
    rfl

/-- A session carries out its operations one after the other. -/
theorem served_eq_run (m : Manager) (rs : List Request) :
    m.served rs = m.run (rs.filterMap Request.operation?) := by
  induction rs generalizing m with
  | nil => rfl
  | cons r rs ih =>
    rw [served, List.foldl_cons, after_step]
    refine (ih _).trans ?_
    cases h : r.operation? <;> simp [h, run]

/-- So every step of a session is atomic. -/
theorem isAtomic_session {m : Manager} {rs : List Request} {s : Step} (h : s ∈ m.session rs) :
    s.IsAtomic := by
  induction rs generalizing m with
  | nil => cases h
  | cons r rs ih =>
    obtain rfl | h := List.mem_cons.1 h
    · exact isAtomic_step m r
    · exact ih h

/-- The workflow is the last that was given, or the one that the session has begun with. -/
theorem workflow_served (m : Manager) (rs : List Request) :
    (m.served rs).workflow = ((m.session rs).filterMap Step.given).getLast?.getD m.workflow := by
  induction rs generalizing m with
  | nil => rfl
  | cons r rs ih =>
    rw [served, List.foldl_cons, session, List.filterMap_cons]
    refine (ih _).trans ?_
    rw [workflow_step]
    cases (m.step r).given with
    | none => rfl
    | some w =>
      dsimp only
      rw [List.getLast?_cons]
      rfl

variable {settings : Settings} {providers : Providers}
  {properties : Option (List (String × Value))} {around : Surroundings} {m : Manager}

/-- A manager that has just been made has no workflow. -/
theorem workflow_of_make (h : make settings providers properties around = .ok m) :
    m.workflow = none := by
  rw [make] at h
  cases hevaluators : providers.evaluators.get .evaluators <;>
    cases hvalidator : providers.validator.get .validator <;> rw [hevaluators, hvalidator] at h <;>
      cases h
  rfl

/-- **Sessions leave nothing half done.**  Whatever is asked of a manager that was made, each
request that fails and each question leaves it as it was, a validation changes the diagnostics only,
and the workflow is the last that was given, if any was. -/
theorem session_of_make (h : make settings providers properties around = .ok m)
    (rs : List Request) :
    (∀ s ∈ m.session rs, s.IsAtomic) ∧
      (m.served rs).workflow = ((m.session rs).filterMap Step.given).getLast?.join := by
  refine ⟨fun s hs => isAtomic_session hs, ?_⟩
  rw [workflow_served, workflow_of_make h]
  cases ((m.session rs).filterMap Step.given).getLast? <;> rfl

/-- Requests of which two fail after a workflow is given. -/
def orderRequests : List Request :=
  [.operation (.replace (some orderWorkflow)), .operation (.load ⟨[]⟩),
    .operation (.setEvaluator (.ofName ⟨[]⟩)), .question .workflow]

/-- Two requests of four fail, and the workflow that was given before them is the one that is left.
-/
theorem session_of_make_order :
    ∃ m, make plainSettings (.standard plainSettings) none ⟨[], fun _ => none⟩ = .ok m ∧
      (m.session orderRequests).map (fun s => s.reply.isOk) = [true, false, false, true] ∧
      (∀ s ∈ m.session orderRequests, s.IsAtomic) ∧
      (m.served orderRequests).workflow = some orderWorkflow := by
  have hm : make plainSettings (.standard plainSettings) none ⟨[], fun _ => none⟩ = .ok _ := rfl
  obtain ⟨hatomic, hworkflow⟩ := session_of_make hm orderRequests
  exact ⟨_, hm, rfl, hatomic, hworkflow.trans rfl⟩

end Manager
end WorkflowKit
