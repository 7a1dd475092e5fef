/-
# Looking things up by names

Of several things with one name a look-up by name finds the first, whether it goes through the
things or through the table by names (`Workflow.lookups_agree`).

Where all have names and no two share one, each is found by its name (`find?_name`), the table by
names lists all of them (`firstByName_eq`), and collecting triggers by their names loses none
(`Workflow.mem_matchedTriggers`).
-/

import Mathlib.Data.List.Induction
import Mathlib.Data.List.Nodup
import WorkflowKit.Workflow.Matching

namespace WorkflowKit

variable {α : Type} {name : α → Option Text} {as : List α} {a : α} {n : Text}

/-! ### The table by names -/

/-- A further thing comes into the table under its name, unless the name is there. -/
theorem firstByName_concat (name : α → Option Text) (as : List α) (a : α) :
    firstByName name (as ++ [a]) =
      match name a with
      | some s =>
        if s.isEmpty || (firstByName name as).any (fun e => e.1 == s) then firstByName name as
        else firstByName name as ++ [(s, a)]
      | none => firstByName name as := by
  rw [firstByName, List.foldl_append]
  rfl

/-- The names of some things, each once, in order of first occurrence.  The empty name is none. -/
def distinctNames (name : α → Option Text) (as : List α) : List Text :=
  ((as.filterMap name).filter fun s => !s.isEmpty).eraseDups

/-- The names that count are those of some thing, the empty one apart. -/
theorem mem_distinctNames :
    n ∈ distinctNames name as ↔ (∃ a ∈ as, name a = some n) ∧ n.isEmpty = false := by
  simp [distinctNames, List.mem_eraseDups]

/-- A member at the end is a duplicate exactly if it stands among the others. -/
theorem eraseDups_concat {β : Type} [BEq β] [LawfulBEq β] (bs : List β) (b : β) :
    (bs ++ [b]).eraseDups = if b ∈ bs then bs.eraseDups else bs.eraseDups ++ [b] := by
  rw [List.eraseDups_append]
  by_cases h : b ∈ bs <;> simp [List.removeAll, h, List.eraseDups_cons]

/-- A thing without a name adds none. -/
theorem distinctNames_concat_of_none (h : name a = none) :
    distinctNames name (as ++ [a]) = distinctNames name as := by
  simp [distinctNames, h]

/-- A thing at the end adds its name, unless that is empty or has occurred. -/
theorem distinctNames_concat (h : name a = some n) :
    distinctNames name (as ++ [a]) =
      if n.isEmpty = true ∨ n ∈ distinctNames name as then distinctNames name as
      else distinctNames name as ++ [n] := by
  cases hn : n.isEmpty with
  | true => simp [distinctNames, h, hn]
  | false =>
    have hone : [n].filter (fun s => !s.isEmpty) = [n] := by simp [hn]
    have hname : [a].filterMap name = [n] := by simp [h]
    rw [distinctNames, List.filterMap_append, hname, List.filter_append, hone, eraseDups_concat]
    simp only [distinctNames, List.mem_eraseDups, Bool.false_eq_true, false_or]

/-- **The table lists the names in order of first occurrence.** -/
theorem keys_firstByName (name : α → Option Text) (as : List α) :
    (firstByName name as).map Prod.fst = distinctNames name as := by
  induction as using List.reverseRecOn with
  | nil => rfl
  | append_singleton as a ih =>
    rw [firstByName_concat]
    cases hs : name a with
    | none => rw [distinctNames_concat_of_none hs, ih]
    | some s =>
      have hany : ((firstByName name as).any fun e => e.1 == s) = true ↔
          s ∈ distinctNames name as := by
        rw [← ih]
        simp
      rw [distinctNames_concat hs]
      simp only [Bool.or_eq_true, hany]
      split
      · exact ih
      · rw [List.map_append, ih, List.map_singleton]

/-- A name that comes again, the empty one, and a thing without a name. -/
example : (firstByName id [some ↑"b", none, some ↑"a", some ↑"", some ↑"b"]).map Prod.fst =
    [↑"b", ↑"a"] := by
  decide

/-- **The table finds the first thing of a name.** -/
theorem lookup?_firstByName (hn : n.isEmpty = false) :
    lookup? n (firstByName name as) = as.find? fun a => name a == some n := by
  -- The table grows at its end, so the induction is from there.
  induction as using List.reverseRecOn with
  | nil => rfl
  | append_singleton as a ih =>
    have hlookup (s : Text) : lookup? n (firstByName name as ++ [(s, a)]) =
        (lookup? n (firstByName name as)).or (if s == n then some a else none) := by
      rw [lookup?, List.find?_append, Option.map_or, List.find?_singleton]
      split <;> rfl
    have hany : ((firstByName name as).any fun e => e.1 == n) =
        (lookup? n (firstByName name as)).isSome := by
      rw [Bool.eq_iff_iff, List.any_eq_true, lookup?, Option.isSome_map, List.find?_isSome]
    rw [firstByName_concat, List.find?_append, List.find?_singleton, ← ih]
    cases hs : name a with
    | none => simp
    | some s =>
      by_cases hsn : s = n
      · subst hsn
        simp only [hn, hany, Bool.false_or, beq_self_eq_true, if_true]
        -- The name is in the table already, so the new thing is not put in; or it is new to it.
        cases hfound : lookup? s (firstByName name as) with
        | none => simp [hlookup, hfound]
        | some b => simp [hfound]
      · have hne : (s == n) = false := by simpa using hsn
        have hne' : ((some s : Option Text) == some n) = false := by simpa using hsn
        simp only [hne', Bool.false_eq_true, if_false, Option.or_none]
        split
        · rfl
        · rw [hlookup, hne, if_neg Bool.false_ne_true, Option.or_none]

/-! ### Looking up by name -/

/-- Of some things, the first of a name, with its place. -/
structure IsFirstNamed (name : α → Option Text) (as : List α) (n : Text) (a : α × ℕ) : Prop where
  /-- It stands at its place. -/
  place : as[a.2]? = some a.1
  /-- It has the name. -/
  named : name a.1 = some n
  /-- What stands before it has another name or none. -/
  first : ∀ i < a.2, ∀ b ∈ as[i]?, name b ≠ some n

/-- Going through some things by name finds the first one of the name, with its place. -/
theorem find?_zipIdx_eq_some {a : α × ℕ} :
    as.zipIdx.find? (fun b => name b.1 == some n) = some a ↔ IsFirstNamed name as n a := by
  obtain ⟨a, i⟩ := a
  rw [List.find?_eq_some_iff_getElem]
  constructor
  · rintro ⟨hname, j, hj, heq, hfirst⟩
    rw [List.getElem_zipIdx, Prod.mk.injEq, Nat.zero_add] at heq
    obtain ⟨rfl, rfl⟩ := heq
    refine ⟨List.getElem?_eq_getElem _, by simpa using hname, fun k hk b hb => ?_⟩
    obtain ⟨hlt, rfl⟩ := List.getElem?_eq_some_iff.1 hb
    simpa using hfirst k hk
  · rintro ⟨hplace, hname, hfirst⟩
    obtain ⟨hi, heq⟩ := List.getElem?_eq_some_iff.1 hplace
    refine ⟨by simpa using hname, i, by simpa using hi, by simpa using heq, fun k hk => ?_⟩
    simpa using hfirst k hk _ (List.getElem?_eq_getElem (Nat.lt_trans hk hi))

/-- It finds nothing exactly if nothing has the name. -/
theorem find?_zipIdx_eq_none :
    as.zipIdx.find? (fun b => name b.1 == some n) = none ↔ ∀ a ∈ as, name a ≠ some n := by
  rw [List.find?_eq_none]
  constructor
  · intro h a ha
    obtain ⟨i, hi, rfl⟩ := List.getElem_of_mem ha
    simpa using h (as[i], i) (List.mk_mem_zipIdx_iff_getElem?.2 (List.getElem?_eq_getElem hi))
  · intro h a ha
    simpa using h a.1 (List.fst_mem_of_mem_zipIdx ha)

/-- Some things are looked up by name, one after the other or in a table. -/
structure FindsFirst (name : α → Option Text) (as : List α) (scan : Option Text → Option (α × ℕ))
    (table : List (Text × (α × ℕ))) : Prop where
  /-- What is found one after the other is the first of the name. -/
  found : ∀ n a, scan (some n) = some a ↔ IsFirstNamed name as n a
  /-- Nothing is found if nothing has the name. -/
  missing : ∀ n, scan (some n) = none ↔ ∀ a ∈ as, name a ≠ some n
  /-- The table has the same under each name. -/
  agree : ∀ n, n.isEmpty = false → lookup? n table = scan (some n)
  /-- The table lists the names, each once, in order of first occurrence. -/
  names : table.map Prod.fst = distinctNames name as

/-- Places do not change the names of things. -/
theorem distinctNames_zipIdx (name : α → Option Text) (as : List α) :
    distinctNames (fun a : α × ℕ => name a.1) as.zipIdx = distinctNames name as := by
  rw [distinctNames, distinctNames]
  conv_rhs => rw [← List.zipIdx_map_fst 0 as, List.filterMap_map]
  rfl

/-- **Look-ups by name find the first.** Both ways to look things up, one after the other and in the
table by names, give the first thing of a name, and the table lists the names in order of first
occurrence. -/
theorem findsFirst (name : α → Option Text) (as : List α) :
    FindsFirst name as (fun n => as.zipIdx.find? fun a => name a.1 == n)
      (firstByName (fun a => name a.1) as.zipIdx) where
  found _ _ := find?_zipIdx_eq_some
  missing _ := find?_zipIdx_eq_none
  agree _ hn := lookup?_firstByName hn
  names := (keys_firstByName _ _).trans (distinctNames_zipIdx name as)

/-! ### Distinct names -/

/-- Each of some things with distinct names is the first of its name. -/
theorem find?_name (h : (as.map name).Nodup) (ha : a ∈ as) :
    as.find? (fun b => name b == name a) = some a := by
  obtain ⟨b, hb⟩ := Option.isSome_iff_exists.1
    (List.find?_isSome (p := fun b => name b == name a).2 ⟨a, ha, beq_self_eq_true _⟩)
  have hname : name b = name a := eq_of_beq (List.find?_some (p := fun b => name b == name a) hb)
  rw [hb, List.inj_on_of_nodup_map h (List.mem_of_find?_eq_some hb) ha hname]

/-- **The table of things with distinct names lists all of them.** -/
theorem firstByName_eq (hnamed : ∀ a ∈ as, ∃ s ∈ name a, s ≠ ⟨[]⟩) (h : (as.map name).Nodup) :
    (firstByName name as).map (fun e => (some e.1, e.2)) = as.map fun a => (name a, a) := by
  induction as using List.reverseRecOn with
  | nil => rfl
  | append_singleton as a ih =>
    rw [List.forall_mem_append, List.forall_mem_singleton] at hnamed
    rw [List.map_append, List.map_singleton, ← List.concat_eq_append, List.nodup_concat] at h
    obtain ⟨hnamed, s, hs, hne⟩ := hnamed
    have hs : name a = some s := hs
    have hempty : s.isEmpty = false := by
      obtain ⟨ps⟩ := s
      simpa [Text.isEmpty] using hne
    have hnew : s ∉ (firstByName name as).map Prod.fst := by
      rw [keys_firstByName, mem_distinctNames]
      rintro ⟨⟨b, hb, hname⟩, -⟩
      exact h.1 (hs ▸ hname ▸ List.mem_map_of_mem hb)
    have hany : ((firstByName name as).any fun e => e.1 == s) = false :=
      List.any_eq_false.2 fun e he heq => hnew (eq_of_beq heq ▸ List.mem_map_of_mem he)
    rw [firstByName_concat, hs]
    simp only [hempty, hany, Bool.or_self, Bool.false_eq_true, if_false]
    rw [List.map_append, ih hnamed h.2, List.map_append, List.map_singleton, List.map_singleton,
      hs]

namespace Workflow

variable {w : Workflow} {e : Evaluator} {t : Trigger × Nat} {acc ts : List (Trigger × Nat)}

/-- The states with their places are the states. -/
theorem map_placedStates (w : Workflow) {β : Type} (f : State → β) :
    w.placedStates.map (fun s => f s.1) = w.states.map f := by
  rw [← Function.comp_def, ← List.map_map, placedStates, List.zipIdx_map_fst]

/-- The triggers with their places are the triggers. -/
theorem map_placedTriggers (w : Workflow) {β : Type} (f : Trigger → β) :
    w.placedTriggers.map (fun t => f t.1) = w.triggers.map f := by
  rw [← Function.comp_def, ← List.map_map, placedTriggers, List.zipIdx_map_fst]

/-- **The ways to look up agree.** A state or a trigger is the same whether it is found one after
the other or in the table by names: the first of its name.  The tables list the names in order of
first occurrence. -/
theorem lookups_agree (w : Workflow) :
    FindsFirst State.name w.states w.state? w.statesByName ∧
      FindsFirst Trigger.name w.triggers w.trigger? w.triggersByName ∧
        ∀ n, n.isEmpty = false → w.namedState? n = w.state? (some n) :=
  have hstates : FindsFirst State.name w.states w.state? w.statesByName := findsFirst _ _
  ⟨hstates, findsFirst _ _, hstates.agree⟩

/-! ### Collecting triggers -/

/-- Collecting triggers without repetition adds none from elsewhere. -/
theorem mem_of_mem_addNew (h : t ∈ addNew acc ts) : t ∈ acc ∨ t ∈ ts := by
  induction ts generalizing acc with
  | nil => exact .inl h
  | cons u ts ih =>
    rw [addNew, List.foldl_cons] at h
    obtain h | h := ih h
    · split at h
      · exact .inl h
      · rw [List.mem_append, List.mem_singleton] at h
        rcases h with h | rfl
        · exact .inl h
        · exact .inr List.mem_cons_self
    · exact .inr (List.mem_cons_of_mem _ h)

/-- What is collected has the names of all that was given, each of them once. -/
theorem names_addNew (hacc : (acc.map fun t => t.1.name).Nodup) :
    ((addNew acc ts).map fun t => t.1.name).Nodup ∧
      ∀ n, n ∈ (addNew acc ts).map (fun t => t.1.name) ↔
        n ∈ acc.map (fun t => t.1.name) ∨ n ∈ ts.map fun t => t.1.name := by
  induction ts generalizing acc with
  | nil => exact ⟨hacc, fun n => by simp [addNew]⟩
  | cons t ts ih =>
    have hany : (acc.any fun u => u.1.name == t.1.name) = true ↔
        t.1.name ∈ acc.map fun u => u.1.name := by
      simp [List.any_eq_true]
    rw [addNew, List.foldl_cons]
    by_cases ht : t.1.name ∈ acc.map fun u => u.1.name
    · rw [if_pos (hany.2 ht)]
      refine ⟨(ih hacc).1, fun n => ((ih hacc).2 n).trans ?_⟩
      rw [List.map_cons, List.mem_cons]
      refine ⟨Or.imp_right .inr, ?_⟩
      rintro (hn | rfl | hn)
      · exact .inl hn
      · exact .inl ht
      · exact .inr hn
    · rw [if_neg (mt hany.1 ht)]
      have hnodup : ((acc ++ [t]).map fun u => u.1.name).Nodup := by
        rw [List.map_append, List.map_singleton]
        exact List.concat_eq_append ▸ hacc.concat ht
      refine ⟨(ih hnodup).1, fun n => ((ih hnodup).2 n).trans ?_⟩
      rw [List.map_append, List.mem_append, List.map_singleton, List.mem_singleton, List.map_cons,
        List.mem_cons, or_assoc]

/-- The triggers that some event matches are collected state by state. -/
theorem matchedTriggers_eq (w : Workflow) (e : Evaluator) :
    w.matchedTriggers e = addNew [] (w.eventStates.flatMap fun s => w.triggersFor e s.1) := by
  rw [addNew, List.foldl_flatMap]
  rfl

/-- No name occurs twice among the matched triggers. -/
theorem nodup_matchedTriggers (w : Workflow) (e : Evaluator) :
    ((w.matchedTriggers e).map fun t => t.1.name).Nodup := by
  have hnil : (([] : List (Trigger × Nat)).map fun t => t.1.name).Nodup := .nil
  rw [matchedTriggers_eq]
  exact (names_addNew hnil).1

/-- **Where names are distinct, collecting triggers loses none.** -/
theorem mem_matchedTriggers (h : (w.triggers.map Trigger.name).Nodup) :
    t ∈ w.matchedTriggers e ↔
      t ∈ w.placedTriggers ∧ ∃ s ∈ w.eventStates, e.matchesAny s.1 t.1 = true := by
  have hnil : (([] : List (Trigger × Nat)).map fun t => t.1.name).Nodup := .nil
  have hnone {u : Trigger × Nat} : u ∉ ([] : List (Trigger × Nat)) := List.not_mem_nil
  have hgiven {u : Trigger × Nat} :
      u ∈ (w.eventStates.flatMap fun s => w.triggersFor e s.1) ↔
        u ∈ w.placedTriggers ∧ ∃ s ∈ w.eventStates, e.matchesAny s.1 u.1 = true := by
    simp only [List.mem_flatMap, triggersFor, List.mem_filter]
    constructor
    · rintro ⟨s, hs, hu, hmatch⟩
      exact ⟨hu, s, hs, hmatch⟩
    · rintro ⟨hu, s, hs, hmatch⟩
      exact ⟨s, hs, hu, hmatch⟩
  rw [matchedTriggers_eq, ← hgiven]
  refine ⟨fun ht => (mem_of_mem_addNew ht).resolve_left hnone, fun ht => ?_⟩
  -- Something of its name is kept, and only the trigger itself has its name.
  obtain ⟨u, hu, hname⟩ := List.mem_map.1 (((names_addNew hnil).2 t.1.name).2
    (.inr (List.mem_map_of_mem (f := fun t => t.1.name) ht)))
  have hu' := hgiven.1 ((mem_of_mem_addNew hu).resolve_left hnone)
  have hinj := List.inj_on_of_nodup_map (f := fun t : Trigger × Nat => t.1.name)
    (l := w.placedTriggers) (by rwa [map_placedTriggers])
  rwa [hinj hu'.1 (hgiven.1 ht).1 hname] at hu

end Workflow
end WorkflowKit
