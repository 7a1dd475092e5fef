/-
# How evaluations fail

The evaluation of an expression gives a value or fails with an error that carries the text of the
expression (`evaluate_yields`), with two exceptions beside the limits of depth.  A null character in
the text is found before the text is read.  And some errors show the values that they are about:
where such a value holds an integer that is too long to be written, the error cannot be worded.

Values come from the constants of the tree and from variables, and no step makes an integer longer.
So it is enough that the integers there are short (`Plain`): then so are those of all values on the
way, from one part of the tree to the next (`sound_eval`).
-/

import WorkflowKit.Expression.Source
import WorkflowKit.Proofs.Expression.Spelling
import WorkflowKit.Proofs.Outcome
import WorkflowKit.Proofs.Value.Entries

namespace WorkflowKit

open Number (exceedsDigitLimit)

namespace Value

/-- A list can be written exactly if each of its items can. -/
theorem anyLongInt_eq_false {vs : List Value} :
    anyLongInt vs = false ↔ ∀ v ∈ vs, v.holdsLongInt = false := by
  induction vs with
  | nil => simp [anyLongInt]
  | cons v vs ih => rw [anyLongInt, Bool.or_eq_false_iff, ih, List.forall_mem_cons]

/-- A mapping can be written exactly if each of its values can. -/
theorem anyEntryLongInt_eq_false {es : List (Text × Value)} :
    anyEntryLongInt es = false ↔ ∀ e ∈ es, e.2.holdsLongInt = false := by
  induction es with
  | nil => simp [anyEntryLongInt]
  | cons e es ih => rw [anyEntryLongInt, Bool.or_eq_false_iff, ih, List.forall_mem_cons]

end Value

namespace Expression

/-- A fault that is reported as an error of the expression. -/
def Fault.IsReported (f : Fault) : Prop :=
  ∀ source, f.error? source = some ⟨f.message source, source⟩

/-- The integers that an evaluation starts from can be written: the constants of the tree, and those
in the values of its variables. -/
structure Plain (vars : Variables) (ints : List Nat) (names : List String) : Prop where
  /-- The constants can. -/
  ints : ∀ n ∈ ints, exceedsDigitLimit n = false
  /-- The values of the variables can. -/
  vars : ∀ x ∈ names, ∀ v ∈ lookup? x vars, v.holdsLongInt = false

variable {vars : Variables}

namespace Plain

variable {ints ints' : List Nat} {names names' : List String}

/-- What is plain for two parts of a tree is plain for the first. -/
theorem left (h : Plain vars (ints ++ ints') (names ++ names')) : Plain vars ints names :=
  ⟨fun n hn => h.ints n (List.mem_append_left _ hn),
    fun x hx => h.vars x (List.mem_append_left _ hx)⟩

/-- And for the second. -/
theorem right (h : Plain vars (ints ++ ints') (names ++ names')) : Plain vars ints' names' :=
  ⟨fun n hn => h.ints n (List.mem_append_right _ hn),
    fun x hx => h.vars x (List.mem_append_right _ hx)⟩

end Plain

/-! ### Steps -/

/-- A value without integers that are too long, or an error of the expression. -/
abbrev Sound (x : Outcome) : Prop := Yields Fault.IsReported (·.holdsLongInt = false) x

/-- A truth value, or an error of the expression. -/
abbrev Decides (x : Except Fault Bool) : Prop := Yields Fault.IsReported (fun _ => True) x

/-- A constant has a value, and can be written if its integer can. -/
theorem Constant.sound_value {c : Constant} (h : ∀ n, c = .int n → exceedsDigitLimit n = false) :
    Sound c.value := by
  cases c with
  | int n => exact h n rfl
  | imaginary | bytes | ellipsis => exact fun _ => rfl
  | _ => rfl

/-- A sign does not count as a digit. -/
theorem exceedsDigitLimit_neg (n : Int) : exceedsDigitLimit (-n) = exceedsDigitLimit n := by
  rw [exceedsDigitLimit, exceedsDigitLimit, Int.natAbs_neg]

/-- One digit can be written. -/
theorem exceedsDigitLimit_of_lt {n : Int} (h : n.natAbs < 10) : exceedsDigitLimit n = false := by
  have hlimit : Number.digitLimit ≠ 0 := by decide
  rw [exceedsDigitLimit, Nat.pow_eq, decide_eq_false_iff_not, Nat.not_le]
  generalize Number.digitLimit = k at hlimit ⊢
  exact Nat.lt_of_lt_of_le h (Nat.le_self_pow hlimit 10)

/-- A sign is applied to a number, or the fault shows the value that is no number. -/
theorem Sign.sound_value (s : Sign) {v : Value} (hv : v.holdsLongInt = false) :
    Sound (s.value v) := by
  cases s with
  | not => rfl
  | minus =>
    cases v with
    | bool b => cases b <;> exact exceedsDigitLimit_of_lt (by decide)
    | int n => exact (exceedsDigitLimit_neg n).trans hv
    | float x => rfl
    | _ => exact fun _ => rfl
  | _ => exact fun _ => rfl

/-- A comparison has a truth value, or its fault shows two values that can be written. -/
theorem decides_compareValues (c : Comparison) (test : Value → Value → Option Bool) {v w : Value}
    (hv : v.holdsLongInt = false) (hw : w.holdsLongInt = false) :
    Decides (compareValues c test v w) := by
  rw [compareValues]
  split
  · trivial
  · rw [incomparableFault, hv, hw]
    exact fun _ => rfl

/-- An attribute is looked up, or the fault shows the value that has no such attribute. -/
theorem sound_attributeOf {v : Value} (hv : v.holdsLongInt = false) (name : String) :
    Sound (attributeOf v name) := by
  cases v with
  | map es =>
    rw [attributeOf]
    split
    · next w hw => exact Value.anyEntryLongInt_eq_false.1 hv _ (mem_of_lookup? hw)
    · exact fun _ => rfl
  | _ => exact fun _ => rfl

/-- A method gives a truth value or a text, or its arguments do not fit. -/
theorem Method.call_yields (m : Method) (s : Text) {args : List Value}
    (h : ∀ v ∈ args, v.holdsLongInt = false) :
    Yields (· = .badArguments) (·.holdsLongInt = false) (m.call s args) := by
  have hor {b : Option Bool} : Yields (· = .badArguments) (·.holdsLongInt = false)
      (orBadArguments (b.map .bool)) := by
    cases b <;> rfl
  cases m with
  | startsWith => exact hor
  | endsWith => exact hor
  | _ =>
    match args with
    | [] => rfl
    | [v] =>
      first
      | rfl
      | exact hor
      | rw [Method.call, Value.tryText, h v (List.mem_singleton_self v)]; rfl
    | _ :: _ :: _ => rfl

/-- A method is called on a text with arguments that can be written, or the fault shows the value
that is no text. -/
theorem sound_callMethod (name : String) (m : Method) {target : Value}
    {args : Except Fault (List Value)} (htarget : target.holdsLongInt = false)
    (hargs : Yields Fault.IsReported (∀ v ∈ ·, v.holdsLongInt = false) args) :
    Sound (callMethod name m target args) := by
  cases target with
  | text s =>
    refine hargs.bind fun vs hvs => ?_
    have hcall := m.call_yields s hvs
    cases hresult : m.call s vs with
    | ok v => exact hcall.ok_of hresult
    | error f =>
      obtain rfl : f = .badArguments := hcall.error_of hresult
      exact fun _ => rfl
  | _ =>
    rw [callMethod, notTextFault, htarget]
    · exact fun _ => rfl
    · rintro s ⟨⟩

/-! ### Trees -/

mutual

/-- **Evaluating a tree** gives a value or an error of the expression. -/
theorem sound_eval (e : Expr) (h : Plain vars e.ints e.names) : Sound (eval vars e) := by
  cases e with
  | constant c =>
    refine Constant.sound_value fun n hn => h.ints n ?_
    rw [hn]
    exact List.mem_singleton_self n
  | name x =>
    rw [eval]
    split
    · next v hv => exact h.vars x (List.mem_singleton_self x) v hv
    · exact fun _ => rfl
  | all es => exact (decides_evalAll es h).map fun _ _ => rfl
  | any es => exact (decides_evalAny es h).map fun _ _ => rfl
  | signed s e => exact (sound_eval e h).bind fun v hv => s.sound_value hv
  | compare e rest =>
    exact (sound_eval e h.left).bind fun v hv =>
      (decides_evalChain hv rest h.right).map fun _ _ => rfl
  | list es =>
    exact (evalItems_yields es h).map fun vs hvs => Value.anyLongInt_eq_false.2 hvs
  | tuple es =>
    exact (evalItems_yields es h).map fun vs hvs => Value.anyLongInt_eq_false.2 hvs
  | member e name => exact (sound_eval e h).bind fun v hv => sound_attributeOf hv name
  -- Only a method of a value can be called, and only without named arguments; all else is an error
  -- of the expression.
  | call f es ns =>
    cases f with
    | member e name =>
      cases ns with
      | nil =>
        rw [eval]
        split
        · exact fun _ => rfl
        · exact (sound_eval e h.left.left).bind fun v hv =>
            sound_callMethod name _ hv (evalItems_yields es h.left.right)
      | cons n ns => exact fun _ => rfl
    | _ => exact fun _ => rfl
  | other form es => exact fun _ => rfl

/-- A conjunction has a truth value, or fails as one of its operands does. -/
theorem decides_evalAll (es : List Expr) (h : Plain vars (Expr.intsOf es) (Expr.namesOf es)) :
    Decides (evalAll vars es) := by
  cases es with
  | nil => trivial
  | cons e es =>
    refine (sound_eval e h.left).bind fun v _ => ?_
    exact Yields.ite (decides_evalAll es h.right) trivial

/-- A disjunction has a truth value, or fails as one of its operands does. -/
theorem decides_evalAny (es : List Expr) (h : Plain vars (Expr.intsOf es) (Expr.namesOf es)) :
    Decides (evalAny vars es) := by
  cases es with
  | nil => trivial
  | cons e es =>
    refine (sound_eval e h.left).bind fun v _ => ?_
    exact Yields.ite trivial (decides_evalAny es h.right)

/-- A chain has a truth value, or fails at one of its operands or comparisons. -/
theorem decides_evalChain {left : Value} (hleft : left.holdsLongInt = false)
    (rest : List (Comparison × Expr))
    (h : Plain vars (Expr.intsOfChain rest) (Expr.namesOfChain rest)) :
    Decides (evalChain vars left rest) := by
  cases rest with
  | nil => trivial
  | cons link rest =>
    obtain ⟨c, e⟩ := link
    rw [evalChain]
    split
    · cases c <;> exact fun _ => rfl
    · next test _ =>
      refine (sound_eval e h.left).bind fun right hright => ?_
      refine (decides_compareValues c test hleft hright).bind fun b _ => ?_
      exact Yields.ite (decides_evalChain hright rest h.right) trivial

/-- The items of a display have values that can be written, or one of them fails. -/
theorem evalItems_yields (es : List Expr) (h : Plain vars (Expr.intsOf es) (Expr.namesOf es)) :
    Yields Fault.IsReported (∀ v ∈ ·, v.holdsLongInt = false) (evalItems vars es) := by
  cases es with
  | nil => exact fun v hv => nomatch hv
  | cons e es =>
    refine (sound_eval e h.left).bind fun v hv => ?_
    exact (evalItems_yields es h.right).bind fun vs hvs => List.forall_mem_cons.2 ⟨hv, hvs⟩

end

/-! ### Null characters -/

/-- Spelling adds no null characters. -/
theorem null_notMem_spelled {cs : List Char} (h : '\x00' ∉ cs) : '\x00' ∉ spelled cs := fun hmem =>
  (mem_spelled hmem).elim h (by decide)

/-- Nor does the normal form of segments, literals and what is between them. -/
theorem null_notMem_segments {before cs : List Char} (hbefore : '\x00' ∉ before)
    (hcs : '\x00' ∉ cs) : '\x00' ∉ (segments before cs).flatMap Segment.normal := by
  fun_induction segments before cs with
  | case1 before =>
    have hreverse : '\x00' ∉ before.reverse := by simpa using hbefore
    simpa using null_notMem_spelled hreverse
  | case2 before c cs n _ ih =>
    rw [List.mem_cons, not_or] at hcs
    have hreverse : '\x00' ∉ before.reverse := by simpa using hbefore
    have hplain := null_notMem_spelled hreverse
    have hrest := ih List.not_mem_nil fun h => hcs.2 (List.mem_of_mem_drop h)
    have hliteral : '\x00' ∉ c :: cs.take n := by
      rw [List.mem_cons, not_or]
      exact ⟨hcs.1, fun h => hcs.2 (List.mem_of_mem_take h)⟩
    simp only [List.flatMap_cons, normal_plain, normal_literal, List.mem_append, not_or]
    exact ⟨hplain, hliteral, hrest⟩
  | case3 before c cs _ ih =>
    rw [List.mem_cons, not_or] at hcs
    exact ih (by simp [hcs.1, hbefore]) hcs.2

/-- A null character in a normal form was in the text already, so it is enough to look there. -/
theorem null_notMem_normalChars {cs : List Char} (h : '\x00' ∉ cs) : '\x00' ∉ normalChars cs := by
  obtain ⟨lead, trail, -, -, heq⟩ := Text.exists_eq_strip ((segments [] cs).flatMap Segment.normal)
  refine fun hmem => null_notMem_segments List.not_mem_nil h ?_
  rw [heq]
  exact List.mem_append_left _ (List.mem_append_right _ hmem)

/-! ### Texts -/

/-- What the reading of a text gives, or fails with. -/
theorem compile_yields {source : String} (h : '\x00' ∉ source.toList) :
    Yields (fun f => f.IsReported ∨ ∃ d, f = .depth d)
      (fun e => tree? (normalChars source.toList) = some e) (compile source) := by
  have hnull : (normalChars source.toList).contains '\x00' = false := by
    simpa using null_notMem_normalChars h
  rw [compile, hnull, if_neg Bool.false_ne_true]
  split
  · exact .inl fun _ => rfl
  · next e he => exact .ite (.inr ⟨_, rfl⟩) (.ite (.inr ⟨_, rfl⟩) he)

/-- **The evaluation of an expression fails with its own error only**, apart from the limits of
depth: if the text holds no null character, and the integers of its tree and of the variables there
can be written, there is a value, or an error that carries the text. -/
theorem evaluate_yields {source : String} (hnull : '\x00' ∉ source.toList)
    (hplain : ∀ e, tree? (normalChars source.toList) = some e → Plain vars e.ints e.names) :
    (∃ v, evaluate vars source = .ok v) ∨
      (∃ f, evaluate vars source = .error f ∧ f.error? source = some ⟨f.message source, source⟩) ∨
        ∃ d, evaluate vars source = .error (.depth d) := by
  have hyields : Yields (fun f => f.IsReported ∨ ∃ d, f = .depth d) (fun _ => True)
      (evaluate vars source) := by
    refine (compile_yields hnull).bind fun e he => ?_
    have heval : Yields (fun f => f.IsReported ∨ ∃ d, f = .depth d) (fun _ => True)
        (eval vars e) := by
      have hsound := sound_eval e (hplain e he)
      cases hresult : eval vars e with
      | ok v => trivial
      | error f => exact .inl (hsound.error_of hresult)
    refine .ite ?_ heval
    split
    · exact .inr ⟨_, rfl⟩
    · exact heval
  cases hresult : evaluate vars source with
  | ok v => exact .inl ⟨v, rfl⟩
  | error f =>
    obtain hreported | ⟨d, rfl⟩ := hyields.error_of hresult
    · exact .inr (.inl ⟨f, rfl, hreported source⟩)
    · exact .inr (.inr ⟨d, rfl⟩)

/-- A comparison of an integer with a text. -/
def crossText : String := "12 < name"

/-- An integer and a text cannot be compared, and both can be shown: the error of the expression
says so. -/
theorem evaluate_yields_cross :
    '\x00' ∉ crossText.toList ∧
      (∀ e, tree? (normalChars crossText.toList) = some e →
        Plain [("name", .text ↑"order")] e.ints e.names) ∧
      ((∃ v, evaluate [("name", .text ↑"order")] crossText = .ok v) ∨
        (∃ f, evaluate [("name", .text ↑"order")] crossText = .error f ∧
          f.error? crossText = some ⟨f.message crossText, crossText⟩) ∨
          ∃ d, evaluate [("name", .text ↑"order")] crossText = .error (.depth d)) := by
  have hnull : '\x00' ∉ crossText.toList := by decide
  have hshort : ((tree? (normalChars crossText.toList)).all fun e =>
      e.ints.all (!exceedsDigitLimit ·) && e.names == ["name"]) = true := by decide +kernel
  have hplain : ∀ e, tree? (normalChars crossText.toList) = some e →
      Plain [("name", .text ↑"order")] e.ints e.names := by
    intro e he
    rw [he, Option.all_some, Bool.and_eq_true, List.all_eq_true] at hshort
    rw [eq_of_beq hshort.2]
    exact ⟨fun n hn => by simpa using hshort.1 n hn, by decide⟩
  exact ⟨hnull, hplain, evaluate_yields hnull hplain⟩

/-- Neither a value nor an error of the expression. -/
def escapes : Outcome → Bool
  | .error .nullCharacter | .error (.digits _) => true
  | _ => false

/-- An integer of 4301 digits cannot be shown, be it compared or part of a text. -/
example : escapes (evaluate [("n", .int (10 ^ 4300 : Nat))] "n < 'a'") = true ∧
    escapes (evaluate [("n", .int (10 ^ 4300 : Nat))] "'a'.equalsIgnoreCase(n)") = true := by
  decide +kernel

/-- Not every failure is an error of the expression: a text with a null character fails with
something else. -/
theorem not_forall_reported :
    ¬ ∀ (vars : Variables) (source : String), (∃ v, evaluate vars source = .ok v) ∨
      (∃ f, evaluate vars source = .error f ∧ f.error? source = some ⟨f.message source, source⟩) ∨
        ∃ d, evaluate vars source = .error (.depth d) := by
  intro h
  have hnull : escapes (evaluate [] "\x00") = true := by decide +kernel
  obtain ⟨v, hv⟩ | ⟨f, hf, hreported⟩ | ⟨d, hd⟩ := h [] "\x00"
  · rw [hv] at hnull
    cases hnull
  · rw [hf] at hnull
    cases f <;> simp_all [escapes, Fault.error?]
  · rw [hd] at hnull
    cases hnull

end Expression
end WorkflowKit
