/-
# Which triggers are matched

A state and a trigger match if the expression of some event of the state accepts the trigger.  Of
the triggers with one name, one is collected: that of the least pair that matches, where the states
count before the triggers.  So it need not be the first trigger that is declared with the name.

The collection goes through the matching pairs in their order (`matching`), and keeps those before
which there is none of the same name (`exists_addNew_map`).
-/

import Mathlib.Data.Prod.Lex
import WorkflowKit.Proofs.Evaluator.Verdict
import WorkflowKit.Proofs.Workflow.Lookup

namespace WorkflowKit
namespace Workflow

/-! ### Pairs that match -/

/-- The first number is the place of a state among those that wait for triggers, the second that
of a trigger which an event of the state accepts. -/
def Matches (w : Workflow) (e : Evaluator) (p : ℕ × ℕ) : Prop :=
  ∃ s ∈ w.eventStates[p.1]?, ∃ t ∈ w.triggers[p.2]?, ∃ event ∈ s.1, ∃ x ∈ event.expression,
    e.accepts x (.trigger t) = true

/-- The name of the trigger at a place; it may be missing. -/
def triggerName? (w : Workflow) (j : ℕ) : Option (Option Text) := w.triggers[j]?.map Trigger.name

/-- A pair that matches, and before which no pair matches whose trigger has the same name. -/
structure IsFirst (w : Workflow) (e : Evaluator) (p : ℕ × ℕ) : Prop where
  /-- It matches. -/
  isMatch : w.Matches e p
  /-- It is the least of those that match and have the name. -/
  least : ∀ q, w.Matches e q → w.triggerName? q.2 = w.triggerName? p.2 → toLex p ≤ toLex q

variable {w : Workflow} {e : Evaluator} {t : Trigger}

theorem matchesAny_iff {events : List Event} :
    e.matchesAny events t = true ↔
      ∃ event ∈ events, ∃ x ∈ event.expression, e.accepts x (.trigger t) = true := by
  rw [Evaluator.matchesAny, List.any_eq_true]
  refine exists_congr fun event => and_congr_right fun _ => ?_
  cases event.expression <;> simp

/-- The matching pairs in order: the place of the state, and the trigger with its place. -/
def matching (w : Workflow) (e : Evaluator) : List (ℕ × (Trigger × ℕ)) :=
  w.eventStates.zipIdx.flatMap fun s => (w.triggersFor e s.1.1).map fun t => (s.2, t)

/-- The pair of places. -/
def places (m : ℕ × (Trigger × ℕ)) : ℕ × ℕ := (m.1, m.2.2)

theorem mem_matching {m : ℕ × (Trigger × ℕ)} :
    m ∈ w.matching e ↔ w.triggers[m.2.2]? = some m.2.1 ∧ w.Matches e (places m) := by
  obtain ⟨i, t, j⟩ := m
  simp only [matching, List.mem_flatMap, List.mem_map, triggersFor, List.mem_filter, placedTriggers,
    List.mem_zipIdx_iff_getElem?, Prod.mk.injEq, matchesAny_iff]
  constructor
  · rintro ⟨s, hs, u, ⟨hu, hmatch⟩, rfl, rfl⟩
    exact ⟨hu, s.1, hs, t, hu, hmatch⟩
  · rintro ⟨ht, s, hs, u, hu, hmatch⟩
    obtain rfl : t = u := Option.some.inj (ht.symm.trans hu)
    exact ⟨(s, i), hs, (t, j), ⟨ht, hmatch⟩, rfl, rfl⟩

/-- Every pair that matches is the pair of places of one of them. -/
theorem Matches.exists_mem {p : ℕ × ℕ} (h : w.Matches e p) : ∃ m ∈ w.matching e, places m = p := by
  obtain ⟨s, hs, t, ht, hmatch⟩ := h
  exact ⟨(p.1, (t, p.2)), mem_matching.2 ⟨ht, s, hs, t, ht, hmatch⟩, rfl⟩

theorem triggerName?_of_mem {m : ℕ × (Trigger × ℕ)} (h : m ∈ w.matching e) :
    w.triggerName? (places m).2 = some m.2.1.name := by
  rw [triggerName?, places, (mem_matching.1 h).1]
  rfl

theorem pairwise_zipIdx {α : Type} (as : List α) :
    as.zipIdx.Pairwise (fun a b => a.2 < b.2) := by
  rw [← List.pairwise_map (f := Prod.snd) (R := (· < ·)), List.zipIdx_map_snd]
  exact List.pairwise_lt_range'

theorem pairwise_matching (w : Workflow) (e : Evaluator) :
    (w.matching e).Pairwise fun m n => toLex (places m) < toLex (places n) := by
  rw [matching, List.pairwise_flatMap]
  constructor
  · intro s _
    rw [List.pairwise_map]
    refine ((pairwise_zipIdx w.triggers).filter _).imp fun hlt => ?_
    exact Prod.Lex.toLex_lt_toLex.2 (.inr ⟨rfl, hlt⟩)
  · refine (pairwise_zipIdx w.eventStates).imp fun hlt m hm n hn => ?_
    obtain ⟨_, -, rfl⟩ := List.mem_map.1 hm
    obtain ⟨_, -, rfl⟩ := List.mem_map.1 hn
    exact Prod.Lex.toLex_lt_toLex.2 (.inl hlt)

theorem map_matching (w : Workflow) (e : Evaluator) :
    (w.matching e).map Prod.snd = w.eventStates.flatMap fun s => w.triggersFor e s.1 := by
  rw [matching, List.map_flatMap]
  simp only [List.map_map, Function.comp_def, List.map_id']
  conv_rhs => rw [← List.zipIdx_map_fst 0 w.eventStates, List.flatMap_map]

/-! ### Collecting the first of each name -/

section Firsts

variable {α β ν : Type} [LinearOrder β] {name : α → ν} {place : α → β} {ms qs : List α} {m : α}

/-- Those of some things, in their order, before which there is none of the same name. -/
structure AreFirsts (name : α → ν) (place : α → β) (ms qs : List α) : Prop where
  /-- They are in order. -/
  sublist : qs.Sublist ms
  /-- They are the first ones. -/
  mem_iff : ∀ m, m ∈ qs ↔ m ∈ ms ∧ ∀ n ∈ ms, name n = name m → place m ≤ place n

/-- A further thing behind the others takes nothing from them. -/
theorem AreFirsts.mem_iff_concat (h : AreFirsts name place ms qs)
    (hlast : ∀ n ∈ ms, place n < place m) {n : α} (hn : n ∈ ms) :
    n ∈ qs ↔ ∀ n' ∈ ms ++ [m], name n' = name n → place n ≤ place n' := by
  rw [h.mem_iff n, List.forall_mem_append]
  simp [hn, (hlast n hn).le]

/-- A further thing whose name has been there is not a first one. -/
theorem AreFirsts.concat_seen (h : AreFirsts name place ms qs)
    (hlast : ∀ n ∈ ms, place n < place m) (hname : ∃ n ∈ ms, name n = name m) :
    AreFirsts name place (ms ++ [m]) qs where
  sublist := h.sublist.trans (List.sublist_append_left ms [m])
  mem_iff n := by
    rw [List.mem_append, List.mem_singleton]
    constructor
    · intro hn
      have hn' := h.sublist.subset hn
      exact ⟨.inl hn', (h.mem_iff_concat hlast hn').1 hn⟩
    · rintro ⟨hn | rfl, hleast⟩
      · exact (h.mem_iff_concat hlast hn).2 hleast
      · obtain ⟨n', hn', heq⟩ := hname
        exact absurd (hleast n' (List.mem_append_left _ hn') heq) (hlast n' hn').not_ge

/-- A further thing with a new name is a first one. -/
theorem AreFirsts.concat_new (h : AreFirsts name place ms qs)
    (hlast : ∀ n ∈ ms, place n < place m) (hname : ¬ ∃ n ∈ ms, name n = name m) :
    AreFirsts name place (ms ++ [m]) (qs ++ [m]) where
  sublist := h.sublist.append_right [m]
  mem_iff n := by
    rw [List.mem_append, List.mem_append, List.mem_singleton]
    constructor
    · rintro (hn | rfl)
      · have hn' := h.sublist.subset hn
        exact ⟨.inl hn', (h.mem_iff_concat hlast hn').1 hn⟩
      · refine ⟨.inr rfl, List.forall_mem_append.2 ⟨fun n' hn' heq => ?_, by simp⟩⟩
        exact absurd ⟨n', hn', heq⟩ hname
    · rintro ⟨hn | rfl, hleast⟩
      · exact .inl ((h.mem_iff_concat hlast hn).2 hleast)
      · exact .inr rfl

end Firsts

theorem addNew_concat (acc ts : List (Trigger × ℕ)) (t : Trigger × ℕ) :
    addNew acc (ts ++ [t]) =
      if (addNew acc ts).any fun u => u.1.name == t.1.name then addNew acc ts
      else addNew acc ts ++ [t] := by
  rw [addNew, List.foldl_append]
  rfl

/-- **Collecting triggers by their names keeps the first of each name.** -/
theorem exists_addNew_map {α β : Type} [LinearOrder β] (trigger : α → Trigger × ℕ) (place : α → β)
    {ms : List α} (h : ms.Pairwise fun m n => place m < place n) :
    ∃ qs : List α, AreFirsts (fun m => (trigger m).1.name) place ms qs ∧
      addNew [] (ms.map trigger) = qs.map trigger := by
  induction ms using List.reverseRecOn with
  | nil => exact ⟨[], ⟨.slnil, by simp⟩, rfl⟩
  | append_singleton ms m ih =>
    rw [List.pairwise_append] at h
    obtain ⟨qs, hfirsts, hqs⟩ := ih h.1
    have hlast : ∀ n ∈ ms, place n < place m := fun n hn => h.2.2 n hn m (List.mem_singleton_self m)
    have hnil : (([] : List (Trigger × ℕ)).map fun t => t.1.name).Nodup := .nil
    have hseen : ((addNew [] (ms.map trigger)).any fun u => u.1.name == (trigger m).1.name) = true ↔
        ∃ n ∈ ms, (trigger n).1.name = (trigger m).1.name := by
      have hnames : (trigger m).1.name ∈ (addNew [] (ms.map trigger)).map (fun t => t.1.name) ↔ _ :=
        (names_addNew hnil).2 _
      simpa using hnames
    rw [List.map_append, List.map_singleton, addNew_concat]
    by_cases hname : ∃ n ∈ ms, (trigger n).1.name = (trigger m).1.name
    · rw [if_pos (hseen.2 hname)]
      exact ⟨qs, hfirsts.concat_seen hlast hname, hqs⟩
    · rw [if_neg (mt hseen.1 hname)]
      refine ⟨qs ++ [m], hfirsts.concat_new hlast hname, ?_⟩
      rw [hqs, List.map_append, List.map_singleton]

/-- The first pairs of each name, in their order, are the pairs of places of those first ones. -/
theorem isFirst_iff {qs : List (ℕ × (Trigger × ℕ))} {p : ℕ × ℕ}
    (h : AreFirsts (fun m => m.2.1.name) (fun m => toLex (places m)) (w.matching e) qs) :
    p ∈ qs.map places ↔ w.IsFirst e p := by
  rw [List.mem_map]
  constructor
  · rintro ⟨m, hm, rfl⟩
    obtain ⟨hmatch, hleast⟩ := (h.mem_iff m).1 hm
    refine ⟨(mem_matching.1 hmatch).2, fun q hq hname => ?_⟩
    obtain ⟨n, hn, rfl⟩ := hq.exists_mem
    rw [triggerName?_of_mem hn, triggerName?_of_mem hmatch, Option.some.injEq] at hname
    exact hleast n hn hname
  · rintro ⟨hmatch, hleast⟩
    obtain ⟨m, hm, rfl⟩ := hmatch.exists_mem
    refine ⟨m, (h.mem_iff m).2 ⟨hm, fun n hn hname => ?_⟩, rfl⟩
    refine hleast _ (mem_matching.1 hn).2 ?_
    rw [triggerName?_of_mem hn, triggerName?_of_mem hm, hname]

/-- **What is collected are the triggers of the first pairs of each name**, in the order of the
pairs. -/
theorem exists_isFirst (w : Workflow) (e : Evaluator) :
    ∃ ps : List (ℕ × ℕ), ps.Pairwise (fun p q => toLex p < toLex q) ∧
      (∀ p, p ∈ ps ↔ w.IsFirst e p) ∧
      (w.matchedTriggers e).map some = ps.map fun p => w.placedTriggers[p.2]? := by
  obtain ⟨qs, hfirsts, hqs⟩ := exists_addNew_map Prod.snd (fun m => toLex (places m))
    (pairwise_matching w e)
  refine ⟨qs.map places, ?_, fun p => isFirst_iff hfirsts, ?_⟩
  · exact List.pairwise_map.2 ((pairwise_matching w e).sublist hfirsts.sublist)
  · rw [matchedTriggers_eq, ← map_matching, hqs, List.map_map, List.map_map]
    refine List.map_congr_left fun m hm => ?_
    have htrigger := (mem_matching.1 (hfirsts.sublist.subset hm)).1
    simp [placedTriggers, places, List.getElem?_zipIdx, htrigger]

/-- A name is that of a matched trigger exactly if some trigger with the name matches. -/
theorem mem_names_matchedTriggers (w : Workflow) (e : Evaluator) (n : Option Text) :
    n ∈ (w.matchedTriggers e).map (fun t => t.1.name) ↔
      ∃ p, w.Matches e p ∧ w.triggerName? p.2 = some n := by
  have hnil : (([] : List (Trigger × ℕ)).map fun t => t.1.name).Nodup := .nil
  rw [matchedTriggers_eq, ← map_matching, (names_addNew hnil).2 n, List.map_nil,
    or_iff_right List.not_mem_nil, List.map_map, List.mem_map]
  constructor
  · rintro ⟨m, hm, rfl⟩
    exact ⟨places m, (mem_matching.1 hm).2, triggerName?_of_mem hm⟩
  · rintro ⟨p, hp, hname⟩
    obtain ⟨m, hm, rfl⟩ := hp.exists_mem
    rw [triggerName?_of_mem hm, Option.some.injEq] at hname
    exact ⟨m, hm, hname⟩

end Workflow

/-! ### Telling which triggers match -/

namespace Evaluator

variable {e : Evaluator} {t : Trigger} {events : List Event}

theorem matchesAny_cons (e : Evaluator) (t : Trigger) (event : Event) (events : List Event) :
    e.matchesAny (event :: events) t = (e.matchesAny [event] t || e.matchesAny events t) := by
  simp [matchesAny]

/-- The events of some that count for a trigger: those before which none accepts it. -/
def Counts (e : Evaluator) (t : Trigger) (events : List Event) (event : Event) : Prop :=
  ∃ before after, events = before ++ event :: after ∧ e.matchesAny before t = false

theorem counts_cons {a event : Event} :
    e.Counts t (a :: events) event ↔
      event = a ∨ e.matchesAny [a] t = false ∧ e.Counts t events event := by
  constructor
  · rintro ⟨_ | ⟨b, before⟩, after, heq, hbefore⟩
    · exact .inl (List.cons.inj heq).1.symm
    · obtain ⟨rfl, rfl⟩ := List.cons.inj heq
      rw [matchesAny_cons, Bool.or_eq_false_iff] at hbefore
      exact .inr ⟨hbefore.1, before, after, rfl, hbefore.2⟩
  · rintro (rfl | ⟨ha, before, after, rfl, hbefore⟩)
    · exact ⟨[], events, rfl, rfl⟩
    · refine ⟨a :: before, after, rfl, ?_⟩
      rw [matchesAny_cons, ha, hbefore, Bool.or_self]

/-- It can be told whether one of some events matches if it can of those that count. -/
theorem anyFault?_eq_none :
    e.anyFault? t events = none ↔ ∀ event, e.Counts t events event →
      ∀ x ∈ event.expression, e.fault? x (.trigger t) = none := by
  induction events with
  | nil =>
    refine iff_of_true rfl ?_
    rintro event ⟨before, after, heq, -⟩
    simp at heq
  | cons a events ih =>
    simp only [counts_cons, or_imp, forall_and, forall_eq, and_imp]
    rw [anyFault?]
    cases hx : a.expression with
    | none => simp [matchesAny, hx, ih]
    | some x =>
      cases haccepts : e.accepts x (.trigger t) with
      | true => simp [matchesAny, hx, haccepts, fault?_of_accepts haccepts]
      | false => simp [matchesAny, hx, haccepts, ih, Option.or_eq_none_iff]

/-- Every value that an evaluator computes to match the events of a workflow with its triggers is a
truth value, or can be shown.  Events behind one that accepts the trigger do not count. -/
def TellsInTurn (e : Evaluator) (w : Workflow) : Prop :=
  ∀ s ∈ w.eventStates, ∀ t ∈ w.triggers, ∀ event, e.Counts t s.1 event →
    ∀ x ∈ event.expression, ∀ v, e.value? x (.trigger t) = some v → IsTold v

theorem matchFault?_eq_none {w : Workflow} : w.matchFault? e = none ↔ e.TellsInTurn w := by
  rw [Workflow.matchFault?, List.findSome?_eq_none_iff, TellsInTurn]
  refine forall₂_congr fun s _ => ?_
  rw [Workflow.triggersFault?, List.findSome?_eq_none_iff]
  refine forall₂_congr fun t _ => ?_
  rw [anyFault?_eq_none]
  exact forall₂_congr fun event _ => forall₂_congr fun x _ => fault?_eq_none

end Evaluator

namespace Workflow

/-- The matching triggers can be told, and one of each name is collected. -/
structure CollectsFirsts (w : Workflow) (e : Evaluator) : Prop where
  /-- They can be told. -/
  told : w.matchFault? e = none
  /-- No name is collected twice. -/
  nodup : ((w.matchedTriggers e).map fun t => t.1.name).Nodup
  /-- Those names are collected that a matching trigger has. -/
  names : ∀ n, n ∈ (w.matchedTriggers e).map (fun t => t.1.name) ↔
    ∃ p, w.Matches e p ∧ w.triggerName? p.2 = some n
  /-- What is collected are the triggers of the first pairs of each name, in the order of the
  pairs. -/
  firsts : ∃ ps : List (ℕ × ℕ), ps.Pairwise (fun p q => toLex p < toLex q) ∧
    (∀ p, p ∈ ps ↔ w.IsFirst e p) ∧
    (w.matchedTriggers e).map some = ps.map fun p => w.placedTriggers[p.2]?

/-- **The triggers of the first matching pairs are collected, one for each name.** Of the pairs of a
state and a trigger that match, the first of each name counts; what is collected are the triggers of
these pairs in their order, exactly if it can be told which pairs match. -/
theorem collectsFirsts_iff (w : Workflow) (e : Evaluator) :
    w.CollectsFirsts e ↔ e.TellsInTurn w :=
  ⟨fun h => Evaluator.matchFault?_eq_none.1 h.told, fun h =>
    { told := Evaluator.matchFault?_eq_none.2 h
      nodup := nodup_matchedTriggers w e
      names := mem_names_matchedTriggers w e
      firsts := exists_isFirst w e }⟩

/-- An event with nothing but an expression. -/
def expecting (source : String) : Event := ⟨some ↑source, none, .sequential, none, []⟩

/-- A workflow whose two triggers have the same name.  The first state accepts the second one, and
the second state accepts both. -/
def namesakeWorkflow : Workflow where
  id := none
  name := none
  version := none
  startsAt := none
  triggers := [⟨some ↑"paid", some ↑"web", none, none⟩, ⟨some ↑"paid", some ↑"shop", none, none⟩]
  states := [.event ⟨none, false, false⟩ [expecting "source == 'shop'"],
    .event ⟨none, false, false⟩ [expecting "name == 'paid'"]]
  metadata := .empty
  extensions := []

/-- The second trigger is collected, since the first state accepts no other. -/
example : namesakeWorkflow.matchedTriggers .forAttributes =
    [(⟨some ↑"paid", some ↑"shop", none, none⟩, 1)] := by
  decide +kernel

/-- A workflow with one trigger, and one state whose second event accepts it. -/
def secondWorkflow (first : String) : Workflow where
  id := none
  name := none
  version := none
  startsAt := none
  triggers := [⟨some ↑"paid", none, none, none⟩]
  states := [.event ⟨none, false, false⟩ [expecting first, expecting "true"]]
  metadata := .empty
  extensions := []

/-- Not for every workflow this is so: nothing can be collected if the expression of the first event
has a value of 3600 hexadecimal digits, which cannot be shown. -/
theorem not_forall_collectsFirsts :
    ¬ ∀ (w : Workflow) (e : Evaluator), w.CollectsFirsts e := by
  intro h
  let long := String.ofList (Expression.hexadecimal (3599 + 1))
  have htells := Evaluator.matchFault?_eq_none.1 (h (secondWorkflow long) .forAttributes).told
  have htold := htells _ (List.mem_singleton_self _) _ (List.mem_singleton_self _)
    (expecting long) ⟨[], [expecting "true"], rfl, rfl⟩ _ rfl _
    (Evaluator.value?_hexadecimal _ 3599)
  obtain ⟨b, hb⟩ | hshort := htold
  · cases hb
  · have hlong : Number.exceedsDigitLimit (16 ^ (3599 + 1) - 1 : Nat) = true := by decide +kernel
    rw [Value.holdsLongInt, hlong] at hshort
    cases hshort

end Workflow
end WorkflowKit
