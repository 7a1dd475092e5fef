/-
# A validation remembers nothing

What a validation replies depends on the present workflow and the present flags alone
(`Manager.validation_of_make`): whatever a manager has served, another that is given the same
workflow and the same flags replies the same.

The validator keeps two things between requests.  Its diagnostics are those of the last validation
and what has been added since (`Manager.diagnostics_run`); the flags that it starts with never
change (`Manager.initialFlags_run`), so a reset restores them.
-/

import WorkflowKit.Proofs.Manager.Session

namespace WorkflowKit

/-- The diagnostic that an operation adds. -/
def Operation.added? : Operation → Option Diagnostic
  | .addDiagnostic d => some d
  | _ => none

namespace Manager

variable {m n : Manager} {op : Operation} {ops : List Operation}

/-- The requests that give another manager the workflow and the flags of this one. -/
def copying (m : Manager) : List Request :=
  [.operation (.replace m.workflow), .operation (.setEnabled m.validator.flags.enabled),
    .operation (.setSchema m.validator.flags.schema),
    .operation (.setStrict m.validator.flags.strict)]

/-- An operation between other requests is served after those before it. -/
theorem served_operation (m : Manager) (rs : List Request) (op : Operation) (qs : List Request) :
    m.served (rs ++ .operation op :: qs) = ((m.served rs).after op).served qs := by
  rw [served, List.foldl_append, List.foldl_cons, after_step]
  rfl

/-! ### What the validator keeps -/

/-- What an operation does to the validator. -/
def validatorAfter (m : Manager) : Operation → Validator
  | .setEnabled b => m.validator.setEnabled b
  | .setSchema b => m.validator.setSchema b
  | .setStrict b => m.validator.setStrict b
  | .validate => m.validator.run (m.text? .json) m.workflow
  | .addDiagnostic d => m.validator.add d
  | .reset => m.validator.reset
  | _ => m.validator

theorem validator_after (op : Operation) : (m.after op).validator = m.validatorAfter op := by
  cases op with
  | load markup =>
    rw [after, perform]
    cases m.read markup <;> rfl
  | registerExtension id type =>
    rw [after, perform]
    cases m.codec.extensions.register id type <;> rfl
  | setEvaluator e =>
    rw [after, perform]
    cases m.evaluators.register e.name e <;> rfl
  | _ => rfl

theorem diagnostics_after (hvalidate : op ≠ .validate) (hreset : op ≠ .reset) :
    (m.after op).diagnostics = m.diagnostics ++ op.added?.toList := by
  rw [diagnostics, validator_after]
  cases op with
  | validate => exact absurd rfl hvalidate
  | reset => exact absurd rfl hreset
  | addDiagnostic d => rfl
  | _ => exact (List.append_nil _).symm

/-- Until the next validation or reset, diagnostics are added at most. -/
theorem diagnostics_run (h : ∀ op ∈ ops, op ≠ .validate ∧ op ≠ .reset) :
    (m.run ops).diagnostics = m.diagnostics ++ ops.filterMap Operation.added? := by
  induction ops generalizing m with
  | nil => exact (List.append_nil _).symm
  | cons op ops ih =>
    rw [List.forall_mem_cons] at h
    rw [run, List.foldl_cons]
    refine (ih h.2).trans ?_
    rw [diagnostics_after h.1.1 h.1.2]
    cases hop : op.added? <;> simp [hop]

theorem initialFlags_after (op : Operation) :
    (m.after op).validator.initialFlags = m.validator.initialFlags := by
  rw [validator_after]
  cases op <;> rfl

/-- The flags that a validator starts with never change. -/
theorem initialFlags_run (ops : List Operation) :
    (m.run ops).validator.initialFlags = m.validator.initialFlags := by
  induction ops generalizing m with
  | nil => rfl
  | cons op ops ih => exact (ih (m := m.after op)).trans (initialFlags_after op)

/-! ### Replies -/

/-- What a validation finds depends on the workflow, the flags and how workflows are written. -/
theorem diagnostics_validate_congr (hworkflow : m.workflow = n.workflow)
    (hflags : m.validator.flags = n.validator.flags) (hwrite : m.write = n.write) :
    (m.after .validate).diagnostics = (n.after .validate).diagnostics := by
  rw [diagnostics_validate, diagnostics_validate, text?, text?, hworkflow, hflags, hwrite]

theorem phase_of_mem_ofMarkup {markup : Option Text} {d : Diagnostic}
    (h : d ∈ Diagnostic.ofMarkup markup) : d.phase = .schema := by
  cases markup with
  | none => cases h
  | some s =>
    obtain ⟨v, -, rfl⟩ := List.mem_map.1 h
    rfl

theorem phase_of_mem_ofWorkflow {w : Option Workflow} {strict : Bool} {d : Diagnostic}
    (h : d ∈ Diagnostic.ofWorkflow w strict) : d.phase = .workflow := by
  cases w with
  | none => cases h
  | some w =>
    obtain ⟨f, -, rfl⟩ := List.mem_map.1 h
    rfl

/-- The diagnostics of the first phase come before those of the second. -/
theorem exists_phases (m : Manager) :
    ∃ ss ws, (m.after .validate).diagnostics = ss ++ ws ∧ (∀ d ∈ ss, d.phase = .schema) ∧
      ∀ d ∈ ws, d.phase = .workflow := by
  rw [diagnostics_validate, Diagnostic.all]
  split
  · refine ⟨_, _, rfl, fun d hd => ?_, fun d hd => phase_of_mem_ofWorkflow hd⟩
    split at hd
    · exact phase_of_mem_ofMarkup hd
    · cases hd
  · exact ⟨[], [], rfl, List.forall_mem_nil _, List.forall_mem_nil _⟩

theorem reply_validate (m : Manager) :
    (m.step (.operation .validate)).reply = .ok (.diagnostics (m.after .validate).diagnostics) := by
  rw [step_of_ok (n := m.after .validate) rfl]
  rfl

/-- A manager that is given the workflow and the flags of another validates like it. -/
theorem diagnostics_copying (hwrite : n.write = m.write) :
    ((n.served m.copying).after .validate).diagnostics = (m.after .validate).diagnostics := by
  rw [served_eq_run]
  exact diagnostics_validate_congr rfl rfl ((write_run _).trans hwrite)

/-- Until the next validation or reset, the diagnostics are those that the last one has found, and
those that are added. -/
theorem diagnostics_served {qs : List Request}
    (h : ∀ q ∈ qs, ¬ q.Validates ∧ q ≠ .operation .reset) :
    (m.served qs).diagnostics =
      m.diagnostics ++ qs.filterMap fun q => q.operation?.bind Operation.added? := by
  have hops : ∀ op ∈ qs.filterMap Request.operation?, op ≠ .validate ∧ op ≠ .reset := by
    intro op hop
    obtain ⟨q, hq, hqop⟩ := List.mem_filterMap.1 hop
    obtain ⟨hvalidates, hreset⟩ := h q hq
    cases q with
    | operation o =>
      cases hqop
      exact ⟨fun ho => hvalidates (.inl (congrArg _ ho)), fun ho => hreset (congrArg _ ho)⟩
    | isValid => exact absurd (.inr rfl) hvalidates
    | question => cases hqop
  rw [served_eq_run, diagnostics_run hops, List.filterMap_filterMap]

variable {settings settings' : Settings} {providers providers' : Providers}
  {properties properties' : Option (List (String × Value))} {around around' : Surroundings}
  {v : Validator}

theorem validator_of_make (h : make settings providers properties around = .ok m)
    (hv : providers.validator = .ok (some v)) : m.validator = v := by
  rw [make, hv] at h
  cases hevaluators : providers.evaluators.get .evaluators <;> rw [hevaluators] at h <;> cases h
  rfl

/-- **A validation remembers nothing.**  Whatever a manager that was made has served, failing
requests among them, a validation replies with some diagnostics, those of the schema first, and so
does every other manager that was just made and given the same workflow and flags.  They remain the
answer to the question for diagnostics, behind them those that are added, until there is another
validation or a reset.  A reset leaves the validator with its first flags, which are those of the
settings for a validator that was made from them, and without diagnostics. -/
theorem validation_of_make (hm : make settings providers properties around = .ok m)
    (hn : make settings' providers' properties' around' = .ok n) (rs : List Request) :
    (∃ ss ws : List Diagnostic,
      (∀ d ∈ ss, d.phase = .schema) ∧ (∀ d ∈ ws, d.phase = .workflow) ∧
        ((m.served rs).step (.operation .validate)).reply = .ok (.diagnostics (ss ++ ws)) ∧
        ((n.served (m.served rs).copying).step (.operation .validate)).reply =
          .ok (.diagnostics (ss ++ ws)) ∧
        ∀ qs : List Request, (∀ q ∈ qs, ¬ q.Validates ∧ q ≠ .operation .reset) →
          ((m.served (rs ++ .operation .validate :: qs)).step (.question .diagnostics)).reply =
            .ok (.diagnostics (ss ++ ws ++
              qs.filterMap fun q => q.operation?.bind Operation.added?))) ∧
      (m.served (rs ++ [.operation .reset])).validator = .ofFlags m.validator.initialFlags ∧
      (providers.validator = (Providers.standard settings).validator →
        (m.served (rs ++ [.operation .reset])).validator = .ofFlags settings.validation) := by
  have hreset : (m.served (rs ++ [.operation .reset])).validator =
      .ofFlags m.validator.initialFlags := by
    rw [served_operation, served, List.foldl_nil, validator_after, validatorAfter, Validator.reset,
      served_eq_run, initialFlags_run]
  refine ⟨?_, hreset, fun hv => ?_⟩
  · obtain ⟨ss, ws, hfound, hss, hws⟩ := exists_phases (m.served rs)
    refine ⟨ss, ws, hss, hws, ?_, ?_, fun qs hqs => ?_⟩
    · rw [reply_validate, hfound]
    · have hwrite : n.write = (m.served rs).write := by
        rw [served_eq_run, write_run, write_of_make hm, write_of_make hn]
      rw [reply_validate, diagnostics_copying hwrite, hfound]
    · rw [served_operation, step_question, answer, diagnostics_served hqs, hfound]
  · rw [hreset, validator_of_make hm hv]
    rfl

/-- Requests of which two fail, with a validation in between and an unnamed workflow at the end. -/
def failingRequests : List Request :=
  [.operation (.load ⟨[]⟩), .operation (.setSchema false),
    .operation (.replace (some orderWorkflow)), .operation .validate,
    .operation (.setEvaluator (.ofName ⟨[]⟩)),
    .operation (.replace (some { orderWorkflow with name := none }))]

/-- A session with two requests that fail: what the validation finds afterwards is found by a
manager that was made otherwise too, once it has the same flags and workflow, and a reset leads back
to the flags of the settings. -/
theorem validation_of_make_failing :
    ∃ m n, make plainSettings (.standard plainSettings) none ⟨[], fun _ => none⟩ = .ok m ∧
      make plainSettings { Providers.standard plainSettings with
        validator := .ok (some (.ofFlags ⟨false, true, true⟩)) } none ⟨[], fun _ => none⟩ = .ok n ∧
      (m.session failingRequests).map (fun s => s.reply.isOk) =
        [false, true, true, true, false, true] ∧
      ((m.served failingRequests).step (.operation .validate)).reply =
        .ok (.diagnostics [.ofFlaw .unnamedWorkflow]) ∧
      ((n.served (m.served failingRequests).copying).step (.operation .validate)).reply =
        .ok (.diagnostics [.ofFlaw .unnamedWorkflow]) ∧
      (m.served (failingRequests ++ [.operation .reset])).validator =
        .ofFlags plainSettings.validation := by
  obtain ⟨m, hm, hisOk, hfound⟩ : ∃ m, make plainSettings (.standard plainSettings) none
      ⟨[], fun _ => none⟩ = .ok m ∧
      (m.session failingRequests).map (fun s => s.reply.isOk) =
        [false, true, true, true, false, true] ∧
      ((m.served failingRequests).step (.operation .validate)).reply =
        .ok (.diagnostics [.ofFlaw .unnamedWorkflow]) := ⟨_, rfl, rfl, rfl⟩
  obtain ⟨n, hn⟩ : ∃ n, make plainSettings { Providers.standard plainSettings with
      validator := .ok (some (.ofFlags ⟨false, true, true⟩)) } none ⟨[], fun _ => none⟩ = .ok n :=
    ⟨_, rfl⟩
  obtain ⟨⟨ss, ws, -, -, hreply, hcopy, -⟩, -, hreset⟩ := validation_of_make hm hn failingRequests
  have heq : ss ++ ws = [.ofFlaw .unnamedWorkflow] :=
    Reply.diagnostics.inj (Except.ok.inj (hreply.symm.trans hfound))
  rw [heq] at hcopy
  exact ⟨m, n, hm, hn, hisOk, hfound, hcopy, hreset rfl⟩

end Manager
end WorkflowKit
