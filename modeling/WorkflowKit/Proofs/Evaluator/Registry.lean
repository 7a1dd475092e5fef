/-
# The default of a registry

A registry keeps its default apart from its entries, and a registration changes the entries only.
So the default is what is registered under its name exactly as long as that name is not registered
again for something else (`Registry.get_run_iff`); choosing a default, the same or another one,
mends it.  If it is not, every look-up that falls back to the default gives a thing that the
registry holds no more.

A manager never lets this happen: what it registers it makes the default at once
(`Manager.holds_default_run`).
-/

import Mathlib.Data.List.Induction
import WorkflowKit.Manager
import WorkflowKit.Proofs.Value.Entries

namespace WorkflowKit

/-- What changes a registry. -/
inductive RegistryChange (α : Type)
  /-- Registers a thing under a name. -/
  | register (name : Text) (a : α)
  /-- Chooses the default. -/
  | setDefault (name : Option Text)

namespace Registry

variable {α : Type} {r : Registry α} {name : Option Text} {e : Text × α} {s : Text} {a : α}
  {c : RegistryChange α} {cs : List (RegistryChange α)}

/-- The registry after a change; a registration that is refused changes nothing. -/
def after (r : Registry α) : RegistryChange α → Registry α
  | .register name a => (r.register name a).toOption.getD r
  | .setDefault name => r.setDefault name

/-- The registry after changes. -/
def run (r : Registry α) (cs : List (RegistryChange α)) : Registry α := cs.foldl after r

/-- The last of some changes comes behind the others. -/
theorem run_concat (cs : List (RegistryChange α)) (c : RegistryChange α) :
    r.run (cs ++ [c]) = (r.run cs).after c := by
  rw [run, List.foldl_append]
  rfl

/-- Whether a thing is what is registered under its name. -/
def Holds (r : Registry α) (e : Text × α) : Prop := lookup? e.1 r.entries = some e.2

/-- A change that chooses a default, or registers something under the name of the default. -/
def Settles (r : Registry α) : RegistryChange α → Prop
  | .register s _ => s = r.default.1
  | .setDefault name => ∃ s ∈ r.names, name = some s

/-- After some changes the default has been replaced under its name, and nothing has settled the
matter since. -/
inductive Replaced (r : Registry α) : List (RegistryChange α) → Prop
  /-- The last change has registered something else under the name of the default. -/
  | now {cs : List (RegistryChange α)} {a : α} (other : a ≠ (r.run cs).default.2) :
    Replaced r (cs ++ [.register (r.run cs).default.1 a])
  /-- An earlier change has, and the last one has nothing to do with it. -/
  | before {cs : List (RegistryChange α)} {c : RegistryChange α} (replaced : Replaced r cs)
    (apart : ¬ (r.run cs).Settles c) : Replaced r (cs ++ [c])

/-- The default is replaced by the last change, or was replaced before and the last change does not
settle it. -/
theorem replaced_concat : r.Replaced (cs ++ [c]) ↔
    (∃ a, c = .register (r.run cs).default.1 a ∧ a ≠ (r.run cs).default.2) ∨
      r.Replaced cs ∧ ¬ (r.run cs).Settles c := by
  constructor
  · intro h
    generalize hds : cs ++ [c] = ds at h
    cases h with
    | now other =>
      obtain ⟨rfl, hc⟩ := List.append_inj' hds rfl
      exact .inl ⟨_, List.singleton_inj.1 hc, other⟩
    | before replaced apart =>
      obtain ⟨rfl, hc⟩ := List.append_inj' hds rfl
      exact .inr ⟨replaced, List.singleton_inj.1 hc ▸ apart⟩
  · rintro (⟨a, rfl, other⟩ | ⟨replaced, apart⟩)
    · exact .now other
    · exact .before replaced apart

/-! ### Look-ups -/

/-- Something is registered under each name. -/
theorem exists_lookup? (h : s ∈ r.names) : ∃ a, lookup? s r.entries = some a := by
  obtain ⟨e, he, rfl⟩ := List.mem_map.1 h
  exact Option.isSome_iff_exists.1 (isSome_lookup? he)

/-- Searching the entries for a name is looking it up. -/
theorem find?_entries (entries : List (Text × α)) (s : Text) :
    (entries.find? fun e => e.1 == s) = (lookup? s entries).map fun a => (s, a) := by
  rw [lookup?, Option.map_map]
  cases h : entries.find? fun e => e.1 == s with
  | none => rfl
  | some e =>
    have hs : e.1 = s := eq_of_beq (List.find?_some (p := fun e : Text × α => e.1 == s) h)
    rw [Option.map_some, Function.comp_apply, ← hs]

/-- A look-up by name gives what is registered under it, and the default where nothing is. -/
theorem get_eq (r : Registry α) (name : Option Text) :
    r.get name = (name.bind fun s => (lookup? s r.entries).map fun a => (s, a)).getD r.default := by
  simp only [get, find?_entries]

/-- A look-up gives what is registered under its name, or falls back to the default. -/
theorem holds_get_or (r : Registry α) (name : Option Text) :
    r.Holds (r.get name) ∨ r.get name = r.default := by
  rw [get_eq]
  cases hfind : name.bind fun s => (lookup? s r.entries).map fun a => (s, a) with
  | none => exact .inr rfl
  | some e =>
    obtain ⟨s, -, hs⟩ := Option.bind_eq_some_iff.1 hfind
    obtain ⟨a, ha, rfl⟩ := Option.map_eq_some_iff.1 hs
    exact .inl ha

/-- All look-ups give what is registered exactly if the default is. -/
theorem forall_holds_get : (∀ name, r.Holds (r.get name)) ↔ r.Holds r.default :=
  ⟨fun h => h none, fun h name => (r.holds_get_or name).elim id fun heq => heq ▸ h⟩

/-- The default is found under its own name exactly if it is registered there, or nothing is. -/
theorem get_default (hmem : r.default.1 ∈ r.names) :
    r.get (some r.default.1) = r.default ↔ r.Holds r.default := by
  obtain ⟨a, ha⟩ := exists_lookup? hmem
  rw [get_eq, Option.bind_some, ha, Option.map_some, Option.getD_some, Holds, ha,
    Option.some_inj, Prod.ext_iff]
  exact and_iff_right rfl

/-! ### Changes -/

/-- A registration changes the entries and leaves the default as it is. -/
theorem register_eq (hs : s.isEmpty = false) :
    r.register s a = .ok { r with entries := putEntry s a r.entries } := by
  rw [register, putNamed, if_neg (by simp [hs])]
  rfl

/-- The empty name is refused. -/
theorem register_refused (hs : s.isEmpty = true) : r.register s a = .error .noName := by
  rw [register, putNamed, if_pos hs]
  rfl

/-- Choosing a registered name makes what is registered under it the default. -/
theorem setDefault_of_mem (h : s ∈ r.names) : ∃ a, lookup? s r.entries = some a ∧
    r.setDefault (some s) = { r with default := (s, a) } := by
  obtain ⟨a, ha⟩ := exists_lookup? h
  refine ⟨a, ha, ?_⟩
  rw [setDefault, Option.bind_some, find?_entries, ha]
  rfl

/-- Choosing any other name changes nothing. -/
theorem setDefault_of_unknown (h : ∀ s ∈ r.names, name ≠ some s) : r.setDefault name = r := by
  cases name with
  | none => rfl
  | some s =>
    have hnone : lookup? s r.entries = none := by
      cases ha : lookup? s r.entries with
      | none => rfl
      | some a => exact absurd rfl (h s (List.mem_map_of_mem (mem_of_lookup? ha)))
    rw [setDefault, Option.bind_some, find?_entries, hnone]
    rfl

/-- A registry whose names are not empty, and among them that of the default. -/
structure WellNamed (r : Registry α) : Prop where
  /-- No name is empty. -/
  nonempty : ∀ s ∈ r.names, s.isEmpty = false
  /-- The name of the default is there. -/
  default : r.default.1 ∈ r.names

/-- A change keeps the names of a registry good: a default can only be chosen among them. -/
theorem WellNamed.after (h : r.WellNamed) (c : RegistryChange α) : (r.after c).WellNamed := by
  cases c with
  | register s a =>
    cases hs : s.isEmpty with
    | true =>
      rw [Registry.after, register_refused hs]
      exact h
    | false =>
      rw [Registry.after, register_eq hs]
      refine ⟨fun t ht => ?_, mem_keys_putEntry.2 (.inr h.default)⟩
      obtain rfl | ht := mem_keys_putEntry.1 ht
      · exact hs
      · exact h.nonempty t ht
  | setDefault name =>
    rw [Registry.after]
    by_cases hname : ∃ s ∈ r.names, name = some s
    · obtain ⟨s, hs, rfl⟩ := hname
      obtain ⟨a, -, heq⟩ := setDefault_of_mem hs
      rw [heq]
      exact ⟨h.nonempty, hs⟩
    · rw [setDefault_of_unknown fun s hs heq => hname ⟨s, hs, heq⟩]
      exact h

/-- So do several changes. -/
theorem WellNamed.run (h : r.WellNamed) (cs : List (RegistryChange α)) : (r.run cs).WellNamed := by
  induction cs generalizing r with
  | nil => exact h
  | cons c cs ih => exact ih (h.after c)

/-- What a change that settles the matter leaves: the default is registered, unless the change has
registered something else under its name. -/
theorem holds_default_after_of_settles (h : r.WellNamed) (hc : r.Settles c) :
    (r.after c).Holds (r.after c).default ↔
      ¬ ∃ a, c = .register r.default.1 a ∧ a ≠ r.default.2 := by
  cases c with
  | register s a =>
    obtain rfl : s = r.default.1 := hc
    rw [after, register_eq (h.nonempty _ h.default)]
    simp [Holds, Except.toOption, lookup?_putEntry]
  | setDefault name =>
    obtain ⟨s, hs, rfl⟩ := hc
    obtain ⟨a, ha, heq⟩ := setDefault_of_mem hs
    rw [after, heq]
    simpa [Holds] using ha

/-- Another change leaves the default as it was, and what is registered under its name. -/
theorem holds_default_after_of_apart (hc : ¬ r.Settles c) :
    (r.after c).Holds (r.after c).default ↔ r.Holds r.default := by
  cases c with
  | register s a =>
    cases hs : s.isEmpty with
    | true =>
      rw [after, register_refused hs]
      rfl
    | false =>
      have hne : s ≠ r.default.1 := hc
      rw [after, register_eq hs]
      simp [Holds, Except.toOption, lookup?_putEntry, hne]
  | setDefault name =>
    rw [after, setDefault_of_unknown fun s hs heq => hc ⟨s, hs, heq⟩]

/-- Changes keep the default registered, unless they replace it. -/
theorem holds_default_run (h : r.WellNamed) (hdefault : r.Holds r.default)
    (cs : List (RegistryChange α)) :
    (r.run cs).Holds (r.run cs).default ↔ ¬ r.Replaced cs := by
  induction cs using List.reverseRecOn with
  | nil =>
    refine iff_of_true hdefault fun hreplaced => ?_
    generalize hds : [] = ds at hreplaced
    cases hreplaced <;> exact List.append_ne_nil_of_right_ne_nil _ (by simp) hds.symm
  | append_singleton cs c ih =>
    rw [run_concat, replaced_concat]
    by_cases hc : (r.run cs).Settles c
    · rw [holds_default_after_of_settles (h.run cs) hc]
      simp [hc]
    · rw [holds_default_after_of_apart hc, ih]
      have hother : ¬ ∃ a, c = .register (r.run cs).default.1 a ∧ a ≠ (r.run cs).default.2 := by
        rintro ⟨a, rfl, -⟩
        exact hc rfl
      simp [hc, hother]

/-! ### Construction -/

/-- A registry that is made from a list has no empty names, for the first one would be refused. -/
theorem names_of_foldlM_putNamed {es acc entries : List (Text × α)}
    (hacc : ∀ s ∈ acc.map Prod.fst, s.isEmpty = false)
    (h : es.foldlM putNamed acc = .ok entries) :
    ∀ s ∈ entries.map Prod.fst, s.isEmpty = false := by
  induction es generalizing acc with
  | nil => cases h; exact hacc
  | cons e es ih =>
    rw [List.foldlM_cons, putNamed] at h
    split at h
    · cases h
    · next hs =>
      refine ih (fun t ht => ?_) h
      obtain rfl | ht := mem_keys_putEntry.1 ht
      · simpa using hs
      · exact hacc t ht

/-- A registry that has just been made is well named, and its default is what is registered under
its name. -/
theorem of_ofList {es : List (Text × α)} {default : Option Text} (h : ofList es default = .ok r) :
    r.WellNamed ∧ r.Holds r.default := by
  rw [ofList] at h
  cases hentries : es.foldlM putNamed [] with
  | error f => rw [hentries] at h; cases h
  | ok entries =>
    rw [hentries] at h
    have hnonempty := names_of_foldlM_putNamed (by simp) hentries
    cases entries with
    | nil => cases h
    | cons first rest =>
      cases h
      have hholds : lookup? first.1 (first :: rest) = some first.2 := by simp [lookup?]
      have hmem {e : Text × α} (he : lookup? e.1 (first :: rest) = some e.2) :
          e.1 ∈ (first :: rest).map Prod.fst := List.mem_map_of_mem (mem_of_lookup? he)
      suffices hdefault : lookup? _ (first :: rest) = some _ from
        ⟨⟨hnonempty, hmem hdefault⟩, hdefault⟩
      simp only [find?_entries]
      cases hfind : default.bind fun s => (lookup? s (first :: rest)).map fun a => (s, a) with
      | none => exact hholds
      | some e =>
        obtain ⟨s, -, hs⟩ := Option.bind_eq_some_iff.1 hfind
        obtain ⟨a, ha, rfl⟩ := Option.map_eq_some_iff.1 hs
        exact ha

end Registry

namespace Manager

variable {m : Manager}

/-- No operation of a manager replaces the default of its evaluators, since one that registers an
evaluator makes it the default. -/
theorem holds_default_after (h : m.evaluators.Holds m.evaluators.default) (op : Operation) :
    (m.after op).evaluators.Holds (m.after op).evaluators.default := by
  cases op with
  | load markup =>
    rw [after, perform]
    cases m.read markup <;> exact h
  | registerExtension id type =>
    rw [after, perform]
    cases m.codec.extensions.register id type <;> exact h
  | setEvaluator e =>
    rw [after, perform]
    cases hname : e.name.isEmpty with
    | true =>
      rw [Registry.register_refused hname]
      exact h
    | false =>
      rw [Registry.register_eq hname]
      -- What was just registered is among the names, so choosing it as the default succeeds.
      obtain ⟨a, ha, heq⟩ := Registry.setDefault_of_mem (s := e.name)
        (r := { m.evaluators with entries := putEntry e.name e m.evaluators.entries })
        (mem_keys_putEntry.2 (.inl rfl))
      dsimp only
      rw [heq]
      exact ha
  | setDefaultEvaluator name =>
    show (m.evaluators.setDefault name).Holds (m.evaluators.setDefault name).default
    by_cases hname : ∃ s ∈ m.evaluators.names, name = some s
    · obtain ⟨s, hs, rfl⟩ := hname
      obtain ⟨a, ha, heq⟩ := Registry.setDefault_of_mem hs
      rw [heq]
      exact ha
    -- A name that is not registered changes nothing.
    · rw [Registry.setDefault_of_unknown fun s hs heq => hname ⟨s, hs, heq⟩]
      exact h
  | _ => exact h

/-- **A manager keeps its default registered.** -/
theorem holds_default_run (h : m.evaluators.Holds m.evaluators.default) (ops : List Operation) :
    (m.run ops).evaluators.Holds (m.run ops).evaluators.default := by
  induction ops generalizing m with
  | nil => exact h
  | cons op ops ih => exact ih (holds_default_after h op)

end Manager

namespace Registry

variable {α : Type} {r : Registry α}

/-- **The default is a registered one unless it is replaced.**  After any changes of a registry that
was made, the default is what is found under its own name, and every look-up gives what is
registered, exactly if the default has not been replaced under its name since it was chosen.  The
operations of a manager do not replace it. -/
theorem get_run_iff {es : List (Text × α)} {default : Option Text}
    (h : ofList es default = .ok r) (cs : List (RegistryChange α)) :
    ((r.run cs).get (some (r.run cs).default.1) = (r.run cs).default ↔ ¬ r.Replaced cs) ∧
      ((∀ name, (r.run cs).Holds ((r.run cs).get name)) ↔ ¬ r.Replaced cs) ∧
        ∀ (m : Manager) (ops : List Operation), m.evaluators.Holds m.evaluators.default →
          (∀ name, (m.run ops).evaluators.Holds ((m.run ops).evaluators.get name)) ∧
            (m.run ops).evaluators.Holds
              ((m.run ops).evaluators.default.1, (m.run ops).evaluator) := by
  obtain ⟨hnamed, hdefault⟩ := of_ofList h
  have hrun := holds_default_run hnamed hdefault cs
  refine ⟨(get_default (hnamed.run cs).default).trans hrun, forall_holds_get.trans hrun,
    fun m ops hm => ?_⟩
  have hkept := Manager.holds_default_run hm ops
  exact ⟨forall_holds_get.2 hkept, hkept⟩

/-- The evaluators of a registry, by what they are called. -/
def labelled : List (Text × Text) :=
  [(↑"attribute", ↑"first"), (↑"trigger-name", ↑"second")]

/-- A default that has been replaced under its name is chosen anew.  From then on every look-up
gives what is registered under a name, those that fall back to the default included. -/
theorem get_run_iff_chosen :
    ∃ r, ofList labelled (some ↑"attribute") = .ok r ∧
      r.run [.register ↑"attribute" ↑"third", .setDefault (some ↑"attribute")] =
        ⟨[(↑"attribute", ↑"third"), (↑"trigger-name", ↑"second")], (↑"attribute", ↑"third")⟩ ∧
      ∀ name, (r.run [.register ↑"attribute" ↑"third", .setDefault (some ↑"attribute")]).Holds
        ((r.run [.register ↑"attribute" ↑"third", .setDefault (some ↑"attribute")]).get name) := by
  have hr : ofList labelled (some ↑"attribute") =
      .ok ⟨labelled, (↑"attribute", ↑"first")⟩ := rfl
  refine ⟨_, hr, rfl, (get_run_iff hr _).2.1.2 ?_⟩
  rw [← List.singleton_append, replaced_concat]
  rintro (⟨a, hchange, -⟩ | ⟨-, hapart⟩)
  · cases hchange
  · exact hapart ⟨↑"attribute", by decide, rfl⟩

/-- A replaced default stays the default, and is not what its name stands for any more. -/
theorem not_forall_get_default :
    ¬ ∀ (es : List (Text × Text)) (default : Option Text) (r : Registry Text)
      (cs : List (RegistryChange Text)), ofList es default = .ok r →
        (r.run cs).get (some (r.run cs).default.1) = (r.run cs).default := by
  intro h
  have hget := h labelled (some ↑"attribute") _ [.register ↑"attribute" ↑"third"] rfl
  exact absurd hget (by decide)

end Registry
end WorkflowKit
