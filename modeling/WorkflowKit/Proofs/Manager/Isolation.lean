/-
# What a manager sees of its environment

Of the environment in which a manager is made, a text that it loads depends on the variables only
that the settings list and that the text refers to (`load_eq_of_agree`).  One environment may leave
the manager without a way to replace placeholders and the other give it one: with unknown keys only,
replacing changes nothing (`Resolver.resolveDoc_eq_self`), and otherwise only the values of the
targets count (`Resolver.resolveDoc_congr`).

To look for placeholders takes room, though, even where there are none.  So a document that is
nested too deep breaks off loading in the one environment and not in the other
(`not_forall_load_eq_of_agree`).

What two managers have in common when they are made they keep through any operations: the shapes of
extension records change in the same way, and the way to replace placeholders does not change.
-/

import WorkflowKit.Manager
import WorkflowKit.Proofs.Template.Substitution
import WorkflowKit.Proofs.Value.Text

namespace WorkflowKit

open Template (Resolver Target targetsOfTexts)

/-! ### Settings -/

/-- Of the variables those are seen that the settings list. -/
theorem Settings.lookup?_placeholderVariables (s : Settings) (env : List (String × String))
    (n : String) : lookup? n (s.placeholderVariables env) =
      if .ofString n ∈ s.propertyVariables then lookup? n env else none := by
  have hmem : n ∈ s.propertyVariables.filterMap Text.toString? ↔
      .ofString n ∈ s.propertyVariables := by
    rw [List.mem_filterMap]
    constructor
    · rintro ⟨t, ht, hn⟩
      obtain ⟨cs, hcs, rfl⟩ := Option.map_eq_some_iff.1 hn
      rw [Text.ofString, String.toList_ofList, ← Text.chars?_eq_some hcs]
      exact ht
    · exact fun h => ⟨_, h, Text.toString?_ofString n⟩
  rw [placeholderVariables, lookup?_distinctEntries_filterMap]
  simp only [hmem]

/-- The value of a variable is a text, and comes from the variables alone. -/
theorem Template.Resolver.value?_env (r : Resolver) (key : String) :
    r.value? ⟨.env, key⟩ = (lookup? key r.env).map fun v => .text v := by
  rw [value?]
  dsimp only
  cases lookup? key r.env <;> rfl

/-- The value of a target, if anything is replaced at all. -/
def Template.valueWith? (r : Option Resolver) (t : Target) : Option Value :=
  r.bind fun r => r.value? t

/-- To the way of replacing that settings lead to an unknown key is no fault. -/
theorem Settings.strict_of_mem_resolver? {s : Settings}
    {properties : Option (List (String × Value))} {around : Surroundings} {r : Resolver}
    (h : r ∈ s.resolver? properties around) : r.strict = false := by
  unfold resolver? at h
  dsimp only at h
  split at h
  · cases h
    rfl
  · split at h <;> cases h
    rfl

variable {settings : Settings} {properties : Option (List (String × Value))}
  {around : Surroundings} {file : Text → Option String} {env env' : List (String × String)}

/-- A variable has the value of the environment if the settings list it, and none otherwise. -/
theorem Settings.valueWith?_env (key : String) :
    Template.valueWith? (settings.resolver? properties around) ⟨.env, key⟩ =
      (if .ofString key ∈ settings.propertyVariables then lookup? key around.env else none).map
        fun v => .text v := by
  rw [← lookup?_placeholderVariables, resolver?, Template.valueWith?]
  split
  · exact Resolver.value?_env ..
  · split
    · next hempty =>
      rw [List.isEmpty_iff.1 hempty]
      rfl
    · exact Resolver.value?_env ..

/-- A property has the value that was given, or that of the file if none were given; the variables
of the environment do not come in. -/
theorem Settings.valueWith?_property (key : String) :
    Template.valueWith? (settings.resolver? properties around) ⟨.property, key⟩ =
      (properties.or (settings.fileProperties? around)).bind fun ps =>
        (⟨ps, [], false⟩ : Resolver).value? ⟨.property, key⟩ := by
  rw [resolver?, Template.valueWith?]
  split
  · next hps =>
    rw [hps]
    rfl
  · next hps =>
    rw [hps]
    split <;> rfl

/-- The value of a target under two environments that agree on it. -/
theorem Settings.valueWith?_resolver? {t : Target}
    (h : t.root = .env → .ofString t.key ∈ settings.propertyVariables →
      lookup? t.key env = lookup? t.key env') :
    Template.valueWith? (settings.resolver? properties ⟨env, file⟩) t =
      Template.valueWith? (settings.resolver? properties ⟨env', file⟩) t := by
  obtain ⟨_ | _, key⟩ := t
  · rw [valueWith?_property, valueWith?_property]
    rfl
  · rw [valueWith?_env, valueWith?_env]
    split
    · next hlisted => rw [h rfl hlisted]
    · rfl

/-! ### Reading under two environments -/

namespace Markup.Codec

variable {c c' : Codec} {d : Doc} {s : Text} {room : Option Template.Room}

/-- Two codecs replace the targets of a document alike, and to none of them an unknown key is a
fault. -/
structure AgreesOn (c c' : Codec) (d : Doc) : Prop where
  /-- The values are the same. -/
  values : ∀ t ∈ targetsOfTexts d.texts,
    Template.valueWith? c.resolver t = Template.valueWith? c'.resolver t
  /-- The first one takes unknown keys. -/
  left : ∀ r ∈ c.resolver, r.strict = false
  /-- The second one takes unknown keys. -/
  right : ∀ r ∈ c'.resolver, r.strict = false

/-- Agreement of codecs goes both ways. -/
theorem AgreesOn.symm (h : AgreesOn c c' d) : AgreesOn c' c d :=
  ⟨fun t ht => (h.values t ht).symm, h.right, h.left⟩

/-- A codec without a resolver against one with a resolver that knows no target.  The latter needs
room to find that out. -/
theorem AgreesOn.resolve_of_none (h : AgreesOn c c' d) (hc : c.resolver = none)
    (hroom : c'.resolver.isSome → d.FitsIn room) :
    c.resolveWithin room d = c'.resolveWithin room d := by
  rw [resolveWithin, resolveWithin, hc]
  dsimp only
  split
  · rfl
  · next r hr =>
    have hnone : ∀ t ∈ targetsOfTexts d.texts, r.value? t = none := by
      intro t ht
      have hvalue := h.values t ht
      rw [hc, hr] at hvalue
      exact hvalue.symm
    rw [r.resolveDoc_eq_self (h.right r hr) (hroom (by rw [hr]; rfl)) hnone]

/-- Two codecs that both have a resolver need the same room. -/
theorem AgreesOn.resolve_of_some {r r' : Resolver} (h : AgreesOn c c' d)
    (hc : c.resolver = some r) (hc' : c'.resolver = some r') :
    c.resolveWithin room d = c'.resolveWithin room d := by
  have halike : ∀ t ∈ targetsOfTexts d.texts, Resolver.Alike r r' t := by
    intro t ht
    have hvalue := h.values t ht
    rw [hc, hc'] at hvalue
    exact ⟨hvalue, fun _ => (h.left r hc).trans (h.right r' hc').symm⟩
  rw [resolveWithin, resolveWithin, hc, hc']
  dsimp only
  rw [Resolver.resolveDoc_congr room d halike]

/-- Two codecs that agree on a document resolve it alike, if both have a resolver, or none has, or
there is room for the one that has. -/
theorem AgreesOn.resolve (h : AgreesOn c c' d)
    (hroom : c.resolver.isSome = c'.resolver.isSome ∨ d.FitsIn room) :
    c.resolveWithin room d = c'.resolveWithin room d := by
  cases hc : c.resolver with
  | none =>
    refine h.resolve_of_none hc fun hsome => ?_
    rw [hc, hsome] at hroom
    exact hroom.resolve_left Bool.false_ne_true
  | some r =>
    cases hc' : c'.resolver with
    | none =>
      refine (h.symm.resolve_of_none hc' fun hsome => ?_).symm
      rw [hc', hsome] at hroom
      exact hroom.resolve_left Bool.noConfusion
    | some r' => exact h.resolve_of_some hc hc'

/-- A document is decoded alike by codecs that know the same extension records and resolve it alike.
-/
theorem ofDocumentWithin_congr (hextensions : c.extensions = c'.extensions)
    (hresolve : c.resolveWithin room d = c'.resolveWithin room d) :
    c.ofDocumentWithin room d = c'.ofDocumentWithin room d := by
  rw [ofDocumentWithin, ofDocumentWithin, hresolve, hextensions]

/-- What is read with limited room depends on the resolver by what becomes of the documents of the
text. -/
theorem decodeBounded_congr (hextensions : c.extensions = c'.extensions)
    (hresolve : ∀ format d, document format s = .ok (.ok d) →
      c.resolveWithin (some .initial) d = c'.resolveWithin (some .initial) d) :
    c.decodeBounded s = c'.decodeBounded s := by
  have hattempt (format : Format) : c.attemptBounded format s = c'.attemptBounded format s := by
    rw [attemptBounded, attemptBounded, documentBounded]
    cases nestingFault? format s with
    | some f => rfl
    | none =>
      cases hd : document format s with
      | error i => rfl
      | ok x =>
        cases x with
        | error f => rfl
        | ok d => exact ofDocumentWithin_congr hextensions (hresolve format d hd)
  rw [decodeBounded, decodeBounded, hattempt, hattempt]

end Markup.Codec

/-! ### Managers -/

namespace Manager

variable {providers : Providers} {m m' : Manager}

/-- A manager that has just been made knows no extension records, and replaces placeholders as its
settings say. -/
theorem codec_of_make (h : make settings providers properties around = .ok m) :
    m.codec = ⟨.empty, settings.resolver? properties around⟩ := by
  rw [make] at h
  cases hevaluators : providers.evaluators.get .evaluators <;>
    cases hvalidator : providers.validator.get .validator <;> rw [hevaluators, hvalidator] at h <;>
      cases h
  rfl

/-- What an operation does to the shapes of extension records. -/
def extensionsAfter (r : ExtensionRegistry) : Operation → ExtensionRegistry
  | .registerExtension id type => (r.register id type).toOption.getD r
  | _ => r

/-- An operation changes the extension records at most, and these in a way that does not depend on
how placeholders are replaced. -/
theorem codec_after (op : Operation) :
    (m.after op).codec = ⟨extensionsAfter m.codec.extensions op, m.codec.resolver⟩ := by
  cases op with
  | load markup =>
    rw [after, perform]
    cases m.read markup <;> rfl
  | registerExtension id type =>
    rw [after, perform, extensionsAfter]
    cases m.codec.extensions.register id type <;> rfl
  | setEvaluator e =>
    rw [after, perform]
    cases m.evaluators.register e.name e <;> rfl
  | _ => rfl

/-- So do several operations, by induction on their list. -/
theorem codec_run (ops : List Operation) :
    (m.run ops).codec = ⟨ops.foldl extensionsAfter m.codec.extensions, m.codec.resolver⟩ := by
  induction ops generalizing m with
  | nil => rfl
  | cons op ops ih =>
    rw [run, List.foldl_cons]
    exact ih.trans (by rw [codec_after, List.foldl_cons])

/-- **Of the environment only the listed variables count that a text refers to.**  Let two managers
be made with the same settings, properties and files, under environments that agree on every
variable that the settings list and that a text of the markup's document refers to, whichever of the
formats it is read in.  Let both environments give their manager something to replace placeholders
by, or none of them, or let there be room to resolve the documents of the markup.  After the same
operations the managers load the markup with the same workflow, or the same fault. -/
theorem load_eq_of_agree {ops : List Operation} {markup : Text}
    (hm : make settings providers properties ⟨env, file⟩ = .ok m)
    (hm' : make settings providers properties ⟨env', file⟩ = .ok m')
    (hagree : ∀ name, .ofString name ∈ settings.propertyVariables →
      (∃ format d, Markup.document format markup = .ok (.ok d) ∧
        ⟨.env, name⟩ ∈ targetsOfTexts d.texts) → lookup? name env = lookup? name env')
    (hroom : m.codec.resolver.isSome = m'.codec.resolver.isSome ∨
      ∀ format d, Markup.document format markup = .ok (.ok d) → d.FitsIn (some .initial)) :
    workflow <$> (m.run ops).perform (.load markup) =
      workflow <$> (m'.run ops).perform (.load markup) := by
  have hdecode : (m.run ops).codec.decodeBounded markup =
      (m'.run ops).codec.decodeBounded markup := by
    rw [codec_of_make hm, codec_of_make hm'] at hroom
    rw [codec_run, codec_run, codec_of_make hm, codec_of_make hm']
    refine Markup.Codec.decodeBounded_congr rfl fun format d hd => Markup.Codec.AgreesOn.resolve ?_
      (hroom.imp_right fun h => h format d hd)
    refine ⟨fun t ht => ?_, fun r hr => Settings.strict_of_mem_resolver? hr,
      fun r hr => Settings.strict_of_mem_resolver? hr⟩
    refine Settings.valueWith?_resolver? fun hroot hlisted => ?_
    refine hagree t.key hlisted ⟨format, d, hd, ?_⟩
    rwa [← hroot]
  have hread : (m.run ops).read markup = (m'.run ops).read markup := by
    rw [read, read, hdecode]
  rw [perform, perform, hread]
  cases (m'.run ops).read markup <;> rfl

/-- A text that refers to a variable and a property. -/
def secretText : Text :=
  ↑("\x7b\"name\": \"order \x7b\x7b env.SECRET \x7d\x7d\", " ++
    "\"version\": \"\x7b\x7b property.v \x7d\x7d\"\x7d")

/-- Settings that list one variable. -/
def regionSettings : Settings :=
  ⟨"orders", .dev, false, "INFO", none, [↑"REGION"], "attribute", Settings.standardFlags⟩

/-- One environment sets the variable that is listed and the other does not, so that only one of the
managers looks for placeholders; the environments disagree on the variable that the text refers
to. -/
theorem load_eq_of_agree_secret :
    ∃ m m', make regionSettings (.standard regionSettings) none
        ⟨[("SECRET", "a")], fun _ => none⟩ = .ok m ∧
      make regionSettings (.standard regionSettings) none
        ⟨[("REGION", "eu"), ("SECRET", "b")], fun _ => none⟩ = .ok m' ∧
      m.codec.resolver.isSome = false ∧ m'.codec.resolver.isSome = true ∧
      (∀ name, .ofString name ∈ regionSettings.propertyVariables →
        (∃ format d, Markup.document format secretText = .ok (.ok d) ∧
          ⟨.env, name⟩ ∈ targetsOfTexts d.texts) →
            lookup? name [("SECRET", "a")] = lookup? name [("REGION", "eu"), ("SECRET", "b")]) ∧
      (∀ format d, Markup.document format secretText = .ok (.ok d) → d.FitsIn (some .initial)) ∧
      workflow <$> (m.run [.setStrict true]).perform (.load secretText) =
        workflow <$> (m'.run [.setStrict true]).perform (.load secretText) := by
  have hdocument (format : Format) :
      ((Markup.document format secretText).toOption.bind Except.toOption).all
        (fun d => !(targetsOfTexts d.texts).contains ⟨.env, "REGION"⟩ &&
          d.fits Template.Room.initial.path Template.Room.initial.calls) = true := by
    cases format <;> decide +kernel
  have hagree : ∀ name, .ofString name ∈ regionSettings.propertyVariables →
      (∃ format d, Markup.document format secretText = .ok (.ok d) ∧
        ⟨.env, name⟩ ∈ targetsOfTexts d.texts) →
          lookup? name [("SECRET", "a")] = lookup? name [("REGION", "eu"), ("SECRET", "b")] := by
    rintro name hname ⟨format, d, hd, ht⟩
    obtain rfl : name = "REGION" := Text.ofString_inj.1 (List.mem_singleton.1 hname)
    have hnone := hdocument format
    rw [hd] at hnone
    simp [Except.toOption] at hnone
    exact absurd ht hnone.1
  have hroom : ∀ format d, Markup.document format secretText = .ok (.ok d) →
      d.FitsIn (some .initial) := by
    rintro format d hd q ⟨⟩
    have hfits := hdocument format
    rw [hd] at hfits
    simp [Except.toOption] at hfits
    exact hfits.2
  obtain ⟨m, hm⟩ : ∃ m, make regionSettings (.standard regionSettings) none
      ⟨[("SECRET", "a")], fun _ => none⟩ = .ok m := ⟨_, rfl⟩
  obtain ⟨m', hm'⟩ : ∃ m', make regionSettings (.standard regionSettings) none
      ⟨[("REGION", "eu"), ("SECRET", "b")], fun _ => none⟩ = .ok m' := ⟨_, rfl⟩
  refine ⟨m, m', hm, hm', ?_, ?_, hagree, hroom,
    load_eq_of_agree hm hm' hagree (.inr hroom)⟩
  · rw [codec_of_make hm]
    decide +kernel
  · rw [codec_of_make hm']
    decide +kernel

/-- A text with lists in each other, which refers to nothing.  It is no YAML text, since a tab
stands behind its brace. -/
def deepText : Text :=
  .ofChars ("\x7b\t\"x\":".toList ++ List.replicate 600 '[' ++ List.replicate 600 ']' ++ ['\x7d'])

/-- The text refers to nothing in either format: as JSON its value holds lists alone, and YAML it is
not. -/
theorem targets_deepText {format : Format} {d : Doc} {t : Target}
    (hd : Markup.document format deepText = .ok (.ok d)) : t ∉ targetsOfTexts d.texts := by
  have hnone : ((Markup.document format deepText).toOption.bind Except.toOption).all
      (fun d => d.texts.isEmpty) = true := by
    cases format <;> decide +kernel
  rw [hd] at hnone
  have htexts : d.texts = [] := List.isEmpty_iff.1 hnone
  rw [htexts]
  exact List.not_mem_nil

/-- A variable that a text does not refer to may make a difference: with it the manager looks for
placeholders, for which the text is nested too deep, and without it the text is refused. -/
theorem not_forall_load_eq_of_agree :
    ¬ ∀ (settings : Settings) (env env' : List (String × String)) (m m' : Manager) (markup : Text),
      make settings (.standard settings) none ⟨env, fun _ => none⟩ = .ok m →
        make settings (.standard settings) none ⟨env', fun _ => none⟩ = .ok m' →
          (∀ name, .ofString name ∈ settings.propertyVariables →
            (∃ format d, Markup.document format markup = .ok (.ok d) ∧
              ⟨.env, name⟩ ∈ targetsOfTexts d.texts) → lookup? name env = lookup? name env') →
            workflow <$> m.perform (.load markup) = workflow <$> m'.perform (.load markup) := by
  intro h
  obtain ⟨m, hm⟩ : ∃ m, make regionSettings (.standard regionSettings) none
      ⟨[], fun _ => none⟩ = .ok m := ⟨_, rfl⟩
  obtain ⟨m', hm'⟩ : ∃ m', make regionSettings (.standard regionSettings) none
      ⟨[("REGION", "eu")], fun _ => none⟩ = .ok m' := ⟨_, rfl⟩
  have hloads := h regionSettings [] [("REGION", "eu")] m m' deepText hm hm'
    fun name _ ⟨format, d, hd, ht⟩ => absurd ht (targets_deepText hd)
  have hread : (m.codec.decodeBounded deepText).toOption.isSome = true := by
    rw [codec_of_make hm]
    decide +kernel
  have hbroken : (m'.codec.decodeBounded deepText).toOption.isSome = false := by
    rw [codec_of_make hm']
    decide +kernel
  rw [perform, perform, read, read] at hloads
  cases hd : m.codec.decodeBounded deepText with
  | error i =>
    rw [hd] at hread
    cases hread
  | ok x =>
    cases hd' : m'.codec.decodeBounded deepText with
    | ok y =>
      rw [hd'] at hbroken
      cases hbroken
    | error i =>
      rw [hd, hd'] at hloads
      cases x <;> cases hloads

end Manager
end WorkflowKit
