/-
# Numbers that are given for texts

A number that stands without quotes where a field holds a text is read as a number and becomes the
text of that number.  So the text has the characters that were given exactly if these are how a
number is written (`held_eq_given_iff`): `1.1` stays as it is, and `1.10` becomes `1.1`.
-/

import WorkflowKit.Proofs.Json.Keys
import WorkflowKit.Proofs.Json.Spelling
import WorkflowKit.Proofs.Markup.Kept
import WorkflowKit.Proofs.Template.Substitution

namespace WorkflowKit

open Json (NumberReading NumberToken Spelled asWritten numberToken? IsNumber numberText
  IsNumberText)
open Number (Binary64)

/-! ### Placeholders and numbers -/

namespace Value

variable {f : Text → Text}

mutual

/-- Changing texts leaves the numbers as they are written. -/
theorem spelled_mapTexts {v w : Value} (h : Spelled v w) : Spelled (v.mapTexts f) w := by
  match v with
  | .null | .bool _ | .int _ | .float _ => exact h
  | .text s =>
    cases h with
    | number _ _ value => exact absurd (Json.isNumber_of_value value) id
    | word mem => simp [Json.wordValues] at mem
    | text => exact .text _ _
  | .list vs =>
    cases h with
    | number _ _ value => exact absurd (Json.isNumber_of_value value) id
    | word mem => simp [Json.wordValues] at mem
    | list items => exact .list (spelled_mapItems items)
  | .map es =>
    cases h with
    | number _ _ value => exact absurd (Json.isNumber_of_value value) id
    | word mem => simp [Json.wordValues] at mem
    | map keys values =>
      exact .map ((keys_mapEntries f es).trans keys) (spelled_mapEntries values)

theorem spelled_mapItems {vs ws : List Value} (h : List.Forall₂ Spelled vs ws) :
    List.Forall₂ Spelled (mapItems f vs) ws := by
  match vs with
  | [] => exact h
  | v :: vs =>
    cases h with
    | cons hv hvs => exact .cons (spelled_mapTexts hv) (spelled_mapItems hvs)

theorem spelled_mapEntries {es : List (Text × Value)} {ws : List Value}
    (h : List.Forall₂ Spelled (es.map Prod.snd) ws) :
    List.Forall₂ Spelled ((mapEntries f es).map Prod.snd) ws := by
  match es with
  | [] => exact h
  | (k, v) :: es =>
    cases h with
    | cons hv hvs => exact .cons (spelled_mapTexts hv) (spelled_mapEntries hvs)

end

mutual

/-- Changing texts leaves the keys as they are. -/
theorem keysAll_mapTexts {p : List Text → Prop} {v : Value} (h : v.KeysAll p) :
    (v.mapTexts f).KeysAll p := by
  match v with
  | .null | .bool _ | .int _ | .float _ => exact h
  | .text s => trivial
  | .list vs => exact keysAll_mapItems h
  | .map es => exact ⟨keys_mapEntries f es ▸ h.1, keysAll_mapEntries h.2⟩

theorem keysAll_mapItems {p : List Text → Prop} {vs : List Value} (h : ItemsKeysAll p vs) :
    ItemsKeysAll p (mapItems f vs) := by
  match vs with
  | [] => exact h
  | v :: vs => exact ⟨keysAll_mapTexts h.1, keysAll_mapItems h.2⟩

theorem keysAll_mapEntries {p : List Text → Prop} {es : List (Text × Value)}
    (h : EntriesKeysAll p es) : EntriesKeysAll p (mapEntries f es) := by
  match es with
  | [] => exact h
  | (k, v) :: es => exact ⟨keysAll_mapTexts h.1, keysAll_mapEntries h.2⟩

end

end Value

namespace Decode

/-- A number is given for a text: `x` is the number and `tok` its characters.  The two values are
what a text of numbers is read as, once with the values of the numbers and once as they are
spelled. -/
inductive NumberGiven (r : ExtensionRegistry) : Content → Value → Value → Value → Text → Prop
  /-- The number itself. -/
  | text {x : Value} {tok : Text} (number : IsNumber x) : NumberGiven r .text x (.text tok) x tok
  /-- A number in a mapping to texts. -/
  | entry {xs xs' : List (Text × Value)} {k : Text} {v v' x : Value} {tok : Text}
    (given : lookup? k xs = some v) (spelled : lookup? k xs' = some v')
    (number : NumberGiven r .text v v' x tok) : NumberGiven r .texts (.map xs) (.map xs') x tok
  /-- A number in an item of a list. -/
  | item {c : Content} {vs vs' : List Value} {x : Value} {tok : Text} (i : Nat)
    (hi : i < vs.length) (hi' : i < vs'.length) (number : NumberGiven r c vs[i] vs'[i] x tok) :
    NumberGiven r (.list c) (.list vs) (.list vs') x tok
  /-- A number in a field of a record, which is given by one of its names. -/
  | field {c : Content} {p : Part} {s : FieldSpec} {k : String} {xs xs' : List (Text × Value)}
    {v v' x : Value} {tok : Text} (admits : c.Admits r (Value.entriesToDoc xs) p)
    (mem : s ∈ p.specs) (name : k ∈ s.name.all) (given : lookup? (.ofString k) xs = some v)
    (spelled : lookup? (.ofString k) xs' = some v') (number : NumberGiven r s.content v v' x tok) :
    NumberGiven r c (.map xs) (.map xs') x tok

/-- The text `t` that a workflow holds where a number is given for a text.  The third value is what
is written for the workflow; a mapping to texts is that of the workflow itself, since its keys may
be written otherwise. -/
inductive NumberHeld (r : ExtensionRegistry) :
    Content → Value → Value → Value → Value → Text → Text → Prop
  /-- The text itself. -/
  | text {x : Value} {tok t : Text} (number : IsNumber x) :
    NumberHeld r .text x (.text tok) (.text t) x tok t
  /-- A text in a mapping. -/
  | entry {xs xs' : List (Text × Value)} {m : TextMap} {k : Text} {v v' x : Value} {tok t : Text}
    (mapping : texts (Value.map xs).toDoc = .ok m) (given : lookup? k xs = some v)
    (spelled : lookup? k xs' = some v') (held : lookup? k m.entries = some t)
    (number : NumberHeld r .text v v' (.text t) x tok t) :
    NumberHeld r .texts (.map xs) (.map xs') (.map (Member.writtenTexts m)) x tok t
  /-- A text in an item of a list. -/
  | item {c : Content} {vs vs' ys : List Value} {x : Value} {tok t : Text} (i : Nat)
    (hi : i < vs.length) (hi' : i < vs'.length) (hy : i < ys.length)
    (number : NumberHeld r c vs[i] vs'[i] ys[i] x tok t) :
    NumberHeld r (.list c) (.list vs) (.list vs') (.list ys) x tok t
  /-- A text in a field of a record, which is written by its first name. -/
  | field {c : Content} {p : Part} {s : FieldSpec} {k : String} {xs xs' ys : List (Text × Value)}
    {v v' y x : Value} {tok t : Text} (admits : c.Admits r (Value.entriesToDoc xs) p)
    (mem : s ∈ p.specs) (name : k ∈ s.name.all) (given : lookup? (.ofString k) xs = some v)
    (spelled : lookup? (.ofString k) xs' = some v') (held : (.ofString s.name.key, y) ∈ ys)
    (number : NumberHeld r s.content v v' y x tok t) :
    NumberHeld r c (.map xs) (.map xs') (.map ys) x tok t

variable {r : ExtensionRegistry} {c : Content} {u u' x y : Value} {tok t : Text}

/-! ### Places -/

/-- Under one key stand values of which one is spelled as the other one. -/
theorem spelled_of_lookup? {xs xs' : List (Text × Value)} {k : Text} {v v' : Value}
    (h : Spelled (.map xs) (.map xs')) (hv : lookup? k xs = some v)
    (hv' : lookup? k xs' = some v') : Spelled v v' := by
  cases h with
  | word mem => simp [Json.wordValues] at mem
  | map keys values =>
    induction xs generalizing xs' with
    | nil => cases hv
    | cons e xs ih =>
      cases xs' with
      | nil => cases hv'
      | cons e' xs' =>
        rw [List.map_cons, List.map_cons, List.cons.injEq] at keys
        cases values with
        | cons hvalue values =>
          rw [lookup?, List.find?_cons] at hv hv'
          rw [← keys.1] at hv'
          cases hk : e.1 == k with
          | true =>
            rw [hk] at hv hv'
            cases hv
            cases hv'
            exact hvalue
          | false =>
            rw [hk] at hv hv'
            exact ih hv hv' keys.2 values

/-- The token of a number that is given for a text. -/
theorem NumberGiven.exists_token (h : NumberGiven r c u u' x tok) (hu : Spelled u u') :
    ∃ cs t, tok = .ofChars cs ∧ numberToken? cs = some t ∧ t.value = .ok x := by
  induction h with
  | text number =>
    cases hu with
    | number token _ value => exact ⟨_, _, rfl, token, value⟩
    | word mem => simp [Json.wordValues] at mem
    | text => exact absurd number id
  | entry given spelled _ ih => exact ih (spelled_of_lookup? hu given spelled)
  | item i hi hi' _ ih =>
    cases hu with
    | word mem => simp [Json.wordValues] at mem
    | list items => exact ih (items.get hi hi')
  | field _ _ _ given spelled _ ih => exact ih (spelled_of_lookup? hu given spelled)

theorem unmarked_ne_null_of_isNumber (h : IsNumber x) : x.toDoc.unmarked ≠ .scalar .null := by
  cases x <;> first | exact absurd h id | nofun

/-- A value that holds a number counts as something. -/
theorem NumberGiven.not_drops (h : NumberGiven r c u u' x tok) : ¬ c.Drops u.toDoc := by
  cases h with
  | text number => exact unmarked_ne_null_of_isNumber number
  | @entry xs xs' k v v' x tok given =>
    intro hdrops
    cases xs with
    | nil => cases given
    | cons => cases hdrops
  | @item c vs vs' x tok i hi =>
    intro hdrops
    cases vs with
    | nil => cases hi
    | cons => cases hdrops
  | field admits =>
    cases c <;> first | exact absurd admits id | nofun

theorem HasType.unique {es : List (Scalar × Doc)} {w w' : String} (h : HasType es w)
    (h' : HasType es w') : w = w' := by
  obtain ⟨d, hd, hw⟩ := h
  obtain ⟨d', hd', hw'⟩ := h'
  obtain rfl : d = d' := Option.some.inj (hd.symm.trans hd')
  exact Text.ofString_inj.1 (Scalar.text.inj (Doc.scalar.inj (hw.symm.trans hw')))

/-- A mapping is read as one part. -/
theorem Content.Admits.unique {es : List (Scalar × Doc)} {p q : Part} (hp : c.Admits r es p)
    (hq : c.Admits r es q) : p = q := by
  cases c with
  | part => exact hp.symm.trans hq
  | anyChoice =>
    cases p <;> cases q <;> first | exact absurd hp id | exact absurd hq id | skip
    next k k' =>
      have htext := HasType.unique hp hq
      cases k <;> cases k' <;> first | rfl | exact absurd htext (by decide)
  | anyState =>
    cases p <;> cases q <;> first | exact absurd hp id | exact absurd hq id | skip
    next k k' =>
      have htext := HasType.unique hp hq
      cases k <;> cases k' <;> first | rfl | exact absurd htext (by decide)
  | anyExtension =>
    cases p <;> cases q <;> first | exact absurd hp id | exact absurd hq id | skip
    next k k' =>
      obtain ⟨id, hid, hk⟩ := hp
      obtain ⟨id', hid', hk'⟩ := hq
      obtain rfl : id = id' := Scalar.text.inj (Doc.scalar.inj (hid.symm.trans hid'))
      rw [Option.some.inj (hk.symm.trans hk')]
  | _ => exact absurd hp id

/-! ### What is held where a number is given -/

/-- The text of a number. -/
theorem scalarText?_of_isNumber (h : IsNumber x) {s : Scalar} (hs : x.toDoc.unmarked = .scalar s)
    (ht : scalarText? s = some t) : t = .ofChars (numberText x) := by
  cases x with
  | int | float =>
    cases hs
    exact (Option.some.inj ht).symm
  | _ => exact absurd h id

/-- The entry of a mapping to texts that is read from an entry. -/
theorem exists_lookup?_of_texts {xs : List (Text × Value)} {m : TextMap} {k : Text} {v : Value}
    (hm : texts (Value.map xs).toDoc = .ok m) (hnd : (xs.map Prod.fst).Nodup)
    (hv : lookup? k xs = some v) : ∃ t, lookup? k m.entries = some t ∧ text v.toDoc = .ok t := by
  obtain ⟨es, qs, hes, hqs, rfl⟩ := texts_eq_ok.1 hm
  cases hes
  rw [Value.entriesToDoc_eq_map, List.forall₂_map_left_iff] at hqs
  have hkeys : xs.map Prod.fst = qs.map Prod.fst := by
    rw [← List.forall₂_eq_eq_eq, List.forall₂_map_left_iff, List.forall₂_map_right_iff]
    exact hqs.imp fun x q h => Except.ok.inj h.1
  have hentries : (TextMap.ofEntries qs).entries = qs := distinctEntries_of_nodup (hkeys ▸ hnd)
  rw [hentries]
  clear hm hkeys hnd hentries
  induction hqs with
  | nil => cases hv
  | @cons e q xs qs heq _ ih =>
    have hkey : e.1 = q.1 := Except.ok.inj heq.1
    rw [lookup?, List.find?_cons] at hv ⊢
    rw [← hkey]
    cases hk : e.1 == k with
    | true =>
      rw [hk] at hv
      cases hv
      exact ⟨q.2, rfl, heq.2⟩
    | false =>
      rw [hk] at hv
      exact ih hv

theorem field?_entriesToDoc_eq_lookup? (k : Text) (xs : List (Text × Value)) :
    Doc.field? k (Value.entriesToDoc xs) = (lookup? k xs).map Value.toDoc := by
  induction xs with
  | nil => rfl
  | cons e xs ih =>
    rw [Value.entriesToDoc, Doc.field?, List.find?_cons, lookup?, List.find?_cons]
    cases hk : e.1 == k with
    | true => simp [hk]
    | false => simpa [hk, Doc.field?, lookup?] using ih

/-- The field that is given by a name. -/
theorem given?_of_lookup? {n : FieldName} {k : String} {xs : List (Text × Value)} {v : Value}
    (name : k ∈ n.all) (given : lookup? (.ofString k) xs = some v)
    (once : ∀ k ∈ n.all, ∀ k' ∈ n.all,
      .text (.ofString k) ∈ (Value.entriesToDoc xs).map Prod.fst →
        .text (.ofString k') ∈ (Value.entriesToDoc xs).map Prod.fst → k = k') :
    n.given? (Value.entriesToDoc xs) = some (k, v.toDoc) := by
  have hmem {k : String} {v : Value} (h : lookup? (.ofString k) xs = some v) :
      .text (.ofString k) ∈ (Value.entriesToDoc xs).map Prod.fst := by
    rw [Value.entriesToDoc_eq_map, List.map_map]
    exact List.mem_map.2 ⟨_, mem_of_lookup? h, rfl⟩
  rw [FieldName.given?, field?_entriesToDoc_eq_lookup?, field?_entriesToDoc_eq_lookup?]
  cases hkey : lookup? (.ofString n.key) xs with
  | some w =>
    have hn : n.key ∈ n.all := by
      rw [FieldName.all]
      split <;> simp
    obtain rfl := once _ name _ hn (hmem given) (hmem hkey)
    obtain rfl : v = w := Option.some.inj (given.symm.trans hkey)
    rfl
  | none =>
    have hsecond : k = n.second := by
      rw [FieldName.all] at name
      split at name
      · next heq => exact (List.mem_singleton.1 name).trans heq
      · rcases List.mem_cons.1 name with rfl | hk
        · rw [given] at hkey
          cases hkey
        · exact List.mem_singleton.1 hk
    rw [← hsecond, given]
    rfl

/-- **Where a number is given for a text, what is written holds the text of the number.** -/
theorem NumberGiven.held (h : NumberGiven r c u u' x tok)
    (hy : Renders r WrittenTexts c u.toDoc y) (hnd : u.KeysAll List.Nodup) :
    NumberHeld r c u u' y x tok (.ofChars (numberText x)) := by
  induction h generalizing y with
  | text number =>
    cases hy with
    | text given same =>
      rw [scalarText?_of_isNumber number given same]
      exact .text number
    | record _ admits => exact absurd admits id
  | @entry xs xs' k v v' x tok given spelled number ih =>
    cases hy with
    | record _ admits => exact absurd admits id
    | texts hgiven written =>
      cases hgiven
      obtain ⟨m, hm, -, rfl⟩ := written
      -- The mapping of the workflow is asked, not what is written of it: its keys may be written
      -- otherwise.
      obtain ⟨t, ht, htext⟩ := exists_lookup?_of_texts hm hnd.1 given
      obtain ⟨s, hs, hst⟩ := text_eq_ok htext
      have hheld := ih (.text hs hst) (Value.entriesKeysAll_iff.1 hnd.2 _ (mem_of_lookup? given))
      obtain rfl : t = .ofChars (numberText x) := by cases hheld; rfl
      exact .entry hm given spelled ht hheld
  | @item c vs vs' x tok i hi hi' number ih =>
    cases hy with
    | record _ admits => exact absurd admits id
    | list given _ length items =>
      obtain ⟨_, hvs, rfl⟩ := toDoc_items?_eq_some given
      cases hvs
      have hmem : vs[i] ∈ vs := List.getElem_mem _
      rw [List.length_map] at length
      have hrenders := items i (by simpa using hi) (length ▸ hi)
      rw [List.getElem_map] at hrenders
      exact .item i hi hi' _ (ih hrenders (Value.itemsKeysAll_iff.1 hnd _ hmem))
  | @field c p s k xs xs' v v' x tok admits mem name given spelled number ih =>
    cases hy with
    | record hgiven admits' _ once _ _ fields kept _ =>
      cases hgiven
      obtain rfl := Content.Admits.unique admits admits'
      -- A number is not nothing, so the field that gives it is kept.
      have hname := given?_of_lookup? name given (once s mem)
      obtain ⟨y, hy⟩ := kept s mem k _ hname number.not_drops
      exact .field admits mem name given spelled hy (ih (fields s mem k _ y hname hy)
        (Value.entriesKeysAll_iff.1 hnd.2 _ (mem_of_lookup? given)))
    | _ => exact absurd admits id

/-- What is written holds no other text there. -/
theorem NumberHeld.eq (h : NumberHeld r c u u' y x tok t)
    (hy : Renders r WrittenTexts c u.toDoc y) (hnd : u.KeysAll List.Nodup) :
    t = .ofChars (numberText x) := by
  induction h with
  | text number =>
    cases hy with
    | text given same => exact scalarText?_of_isNumber number given same
  | entry mapping given spelled held _ ih =>
    obtain ⟨t', ht', htext⟩ := exists_lookup?_of_texts mapping hnd.1 given
    obtain rfl := Option.some.inj (held.symm.trans ht')
    obtain ⟨s, hs, hst⟩ := text_eq_ok htext
    exact ih (.text hs hst) (Value.entriesKeysAll_iff.1 hnd.2 _ (mem_of_lookup? given))
  | @item c vs vs' ys x tok t i hi hi' hi'' _ ih =>
    cases hy with
    | list given _ length items =>
      obtain ⟨_, hvs, rfl⟩ := toDoc_items?_eq_some given
      cases hvs
      have hrenders := items i (by simpa using hi) hi''
      rw [List.getElem_map] at hrenders
      exact ih hrenders (Value.itemsKeysAll_iff.1 hnd _ (List.getElem_mem _))
  | @field c p s k xs xs' ys v v' y x tok t admits mem name given spelled held _ ih =>
    cases hy with
    | record hgiven admits' _ once _ _ fields _ _ =>
      cases hgiven
      obtain rfl := Content.Admits.unique admits admits'
      exact ih (fields s mem k _ y (given?_of_lookup? name given (once s mem)) held)
        (Value.entriesKeysAll_iff.1 hnd.2 _ (mem_of_lookup? given))
    | _ => exact absurd admits id

end Decode

namespace Markup

variable {c : Codec} {s : Text} {w : Workflow}

open Decode (NumberGiven NumberHeld FieldSpec Part same)

/-- What a JSON text is decoded from: the value that it holds, with the placeholders replaced. -/
theorem exists_resolved_of_attempt (h : c.attempt .json s = .ok (.ok w)) :
    ∃ v u, Json.read s = .ok v ∧ c.resolve v.toDoc = .ok (.ok u.toDoc) ∧
      Decode.workflow (some c.extensions) u.toDoc = .ok w ∧
      (∀ v', Spelled v v' → Spelled u v') ∧ (v.KeysAll List.Nodup → u.KeysAll List.Nodup) := by
  obtain ⟨d, hd, h⟩ := attempt_eq_ok.1 h
  obtain ⟨v, hv, rfl⟩ := document_json_eq_ok hd
  obtain ⟨d', hd', hw⟩ := ofDocument_eq_ok h
  have hres : c.resolve v.toDoc = .ok (.ok d') := hd'
  refine ⟨v, ?_⟩
  cases hr : c.resolver with
  | none =>
    rw [Codec.resolve, resolveWithin_of_none hr] at hd'
    obtain rfl : v.toDoc = d' := Except.ok.inj (Except.ok.inj hd')
    exact ⟨v, hv, hres, hw, fun _ => id, id⟩
  | some r =>
    rw [Codec.resolve, Codec.resolveWithin, hr] at hd'
    dsimp only at hd'
    split at hd'
    · next e he =>
      have heq := (Template.Resolver.of_resolveDoc_eq_ok he).1
      rw [← Value.toDoc_mapTexts] at heq
      obtain rfl : (v.mapTexts r.replaced).toDoc = d' :=
        heq.symm.trans (Except.ok.inj (Except.ok.inj hd'))
      exact ⟨_, hv, hres, hw, fun _ => Value.spelled_mapTexts, Value.keysAll_mapTexts⟩
    all_goals cases hd'

/-- **A number that is given for a text keeps its characters exactly if they are the text of a
number.** This is said of every number token of the JSON text that stands where the data model has a
text, at any depth: the workflow holds some text there, and it is the token exactly if the token is
how its number is written. -/
theorem held_eq_given_iff (h : c.attempt .json s = .ok (.ok w)) :
    c.decode s = .ok (.ok w) ∧ ∃ v v' u, Json.read s = .ok v ∧ Json.read s asWritten = .ok v' ∧
      c.resolve v.toDoc = .ok (.ok u.toDoc) ∧
      ∀ x cs, NumberGiven c.extensions (.part .workflow) u v' x (.ofChars cs) →
        (∃ t, NumberHeld c.extensions (.part .workflow) u v' w.document x (.ofChars cs) t) ∧
          ∀ t, NumberHeld c.extensions (.part .workflow) u v' w.document x (.ofChars cs) t →
            (t = .ofChars cs ↔ IsNumberText cs) := by
  obtain ⟨v, u, hv, hres, hw, hspelled, hkeys⟩ := exists_resolved_of_attempt h
  obtain ⟨v', hv', hvv'⟩ := Json.read_asWritten hv
  have hnd := hkeys (Json.read_keysAll hv)
  have hr := Decode.renders_workflow hw
  refine ⟨decode_eq_ok.2 (.inl h), v, v', u, hv, hv', hres, fun x cs hx => ?_⟩
  refine ⟨⟨_, hx.held hr hnd⟩, fun t ht => ?_⟩
  obtain ⟨cs', token, htok, htoken, hvalue⟩ := hx.exists_token (hspelled v' hvv')
  rw [Text.ofChars_inj] at htok
  rw [ht.eq hr hnd, Text.ofChars_inj, eq_comm, htok]
  exact Json.eq_numberText_iff htoken hvalue

/-- A text with a version that ends in a zero. -/
def longVersionText : Text := ↑"\x7b\"version\":1.10\x7d"

/-- The token of its version. -/
def longVersion : NumberToken := ⟨false, ['1'], some ['1', '0'], none, 4⟩

/-- The workflow of `longVersionText`. -/
def longVersionWorkflow : Workflow where
  id := none
  name := none
  version := some ↑"1.1"
  startsAt := none
  triggers := []
  states := []
  metadata := .empty
  extensions := []

theorem read_longVersionText {number : NumberReading} {v : Value}
    (h : number "1.10".toList longVersion = .ok v) :
    Json.read longVersionText number = .ok (.map [(↑"version", v)]) := by
  cbv
  erw [h]
  rfl

theorem value_longVersion : longVersion.value = .ok (.float (.ofDecimal false 110 (-2))) := rfl

theorem attempt_longVersionText :
    (⟨.empty, none⟩ : Codec).attempt .json longVersionText = .ok (.ok longVersionWorkflow) := by
  have htext : (Binary64.ofDecimal false 110 (-2)).text = "1.1".toList := by decide +kernel
  have hdoc (x : Binary64) : (⟨.empty, none⟩ : Codec).ofDocument
      (Value.map [(↑"version", .float x)]).toDoc =
        .ok (.ok { longVersionWorkflow with version := some (.ofChars x.text) }) := by
    cbv
  refine attempt_eq_ok.2 ⟨_, ?_, (hdoc (.ofDecimal false 110 (-2))).trans ?_⟩
  · rw [document, read_longVersionText value_longVersion]
  · rw [htext]
    rfl

/-- A version that ends in a zero: a number is given where the workflow holds a text. -/
theorem held_eq_given_iff_longVersion :
    (⟨.empty, none⟩ : Codec).attempt .json longVersionText = .ok (.ok longVersionWorkflow) ∧
      (⟨.empty, none⟩ : Codec).decode longVersionText = .ok (.ok longVersionWorkflow) ∧
      ∃ v v' u, Json.read longVersionText = .ok v ∧ Json.read longVersionText asWritten = .ok v' ∧
        (⟨.empty, none⟩ : Codec).resolve v.toDoc = .ok (.ok u.toDoc) ∧
        ∀ x cs, NumberGiven .empty (.part .workflow) u v' x (.ofChars cs) →
          (∃ t, NumberHeld .empty (.part .workflow) u v' longVersionWorkflow.document x
            (.ofChars cs) t) ∧
          ∀ t, NumberHeld .empty (.part .workflow) u v' longVersionWorkflow.document x
            (.ofChars cs) t → (t = .ofChars cs ↔ IsNumberText cs) :=
  ⟨attempt_longVersionText, held_eq_given_iff attempt_longVersionText⟩

/-- Not every number that is given for a text keeps its characters: the version `1.10` is held as
`1.1`. -/
theorem not_forall_held_eq_given :
    ¬ ∀ (c : Codec) (s : Text) (w : Workflow) (v v' x : Value) (cs : List Char) (t : Text),
      c.resolver = none → c.attempt .json s = .ok (.ok w) → Json.read s = .ok v →
        Json.read s asWritten = .ok v' →
          NumberHeld c.extensions (.part .workflow) v v' w.document x (.ofChars cs) t →
            t = .ofChars cs := by
  intro h
  have hheld : NumberHeld .empty (.part .workflow)
      (.map [(↑"version", .float (.ofDecimal false 110 (-2)))])
      (.map [(↑"version", .text (.ofChars "1.10".toList))]) longVersionWorkflow.document
      (.float (.ofDecimal false 110 (-2))) (.ofChars "1.10".toList) ↑"1.1" := by
    have hmem : FieldSpec.plain (same "version") .text ∈ Part.workflow.specs := by simp [Part.specs]
    refine .field rfl hmem (List.mem_singleton_self _) rfl rfl ?_ (.text trivial)
    exact List.mem_filterMap.2
      ⟨_, List.mem_cons_of_mem _ (List.mem_cons_of_mem _ (List.mem_cons_self ..)), rfl⟩
  have heq := h ⟨.empty, none⟩ longVersionText longVersionWorkflow _ _ _ _ _ rfl
    attempt_longVersionText (read_longVersionText value_longVersion) (read_longVersionText rfl)
    hheld
  exact absurd heq (by decide)

end Markup
end WorkflowKit
