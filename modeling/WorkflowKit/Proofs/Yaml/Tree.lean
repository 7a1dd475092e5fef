/-
# The tree of a value

The tokens of a value are read into a tree of nodes that shows the value (`takes_value`).

`Takes x ts us q` describes a step of reading: from the tokens `ts` it goes on to the tokens `us`,
with a result that satisfies `q`.
-/

import WorkflowKit.Proofs.Yaml.Block
import WorkflowKit.Proofs.Yaml.Shows

namespace WorkflowKit
namespace Yaml

open Value (PlainItems PlainEntries)

namespace Node

/-! ### Steps of reading -/

/-- Whether a step of reading goes from some tokens to others, with a result of a kind. -/
def Takes {α : Type} (x : Reading α) (ts us : List Token) (q : α → Prop) : Prop :=
  ∀ p : Progress, p.tokens = ts →
    ∃ a n, x p = .ok (a, { p with tokens := us, passed := n }) ∧ q a

namespace Takes

variable {α β : Type} {x : Reading α} {f : α → Reading β} {ts us vs : List Token} {q : α → Prop}
  {r : β → Prop} {t : Token} {ended : Fault}

/-- Steps one after the other take what each of them takes. -/
theorem bind (hx : Takes x ts us q) (hf : ∀ a, q a → Takes (f a) us vs r) :
    Takes (x >>= f) ts vs r := by
  intro p hp
  obtain ⟨a, n, ha, hq⟩ := hx p hp
  obtain ⟨b, m, hb, hr⟩ := hf a hq { p with tokens := us, passed := n } rfl
  refine ⟨b, m, ?_, hr⟩
  show (x p >>= fun y => f y.1 y.2) = _
  rw [ha]
  exact hb

/-- A result takes no tokens. -/
theorem pure {a : α} (h : q a) : Takes (pure a) ts ts q := by
  rintro p rfl
  exact ⟨a, p.passed, rfl, h⟩

/-- Looking at a token does not take it. -/
theorem peek : Takes (peek ended) (t :: ts) (t :: ts) (· = t) := by
  intro p hp
  obtain ⟨tokens, passed, handles, anchors⟩ := p
  subst hp
  exact ⟨t, passed, rfl, rfl⟩

/-- One token is taken. -/
theorem shift : Takes shift (t :: ts) ts fun _ => True := by
  intro p hp
  obtain ⟨tokens, passed, handles, anchors⟩ := p
  subst hp
  exact ⟨(), passed + 1, rfl, trivial⟩

/-- Asking for the place takes no tokens. -/
theorem place : Takes place ts ts fun _ => True := by
  rintro p rfl
  exact ⟨p.passed, p.passed, rfl, trivial⟩

/-- The next token decides. -/
theorem peek_bind {f : Token → Reading β} (hf : Takes (f t) (t :: ts) vs r) :
    Takes (Node.peek ended >>= f) (t :: ts) vs r :=
  peek.bind fun _ ha => ha ▸ hf

/-- A step behind one token. -/
theorem shift_bind {f : Unit → Reading β} (hf : Takes (f ()) ts vs r) :
    Takes (Node.shift >>= f) (t :: ts) vs r :=
  shift.bind fun _ _ => hf

end Takes

/-- Whether a token begins a node without an anchor and a tag. -/
def isBare : Token → Bool
  | .reference _ | .anchor _ | .tag .. => false
  | _ => true

variable {ended : Fault} {ts us rest : List Token} {t : Token}

/-- A node without an anchor and a tag begins at once. -/
theorem takes_properties (ht : isBare t = true) :
    Takes (properties ended) (t :: ts) (t :: ts) (· = ⟨none, none⟩) := by
  unfold properties
  refine .peek_bind ?_
  cases t <;> first | exact .pure rfl | cases ht

/-- Where there is no anchor, none is noted. -/
theorem takes_noteAnchor {q : Unit → Prop} (h : q ()) :
    Takes (noteAnchor none) ts ts q := Takes.pure h

/-- What stands before a node is neither an anchor nor a tag. -/
theorem takes_bare {f : Properties → Reading Node} {q : Node → Prop} (ht : isBare t = true)
    (hf : Takes (f ⟨none, none⟩) (t :: ts) us q) :
    Takes (properties ended >>= f) (t :: ts) us q :=
  (takes_properties ht).bind fun _ hp => hp ▸ hf

/-- The rest of a collection behind its first token. -/
theorem takes_collection {α : Type} {x : Reading α} {f : α → Node} {q : Node → Prop}
    {r : α → Prop} (hx : Takes x ts us r) (hq : ∀ a, r a → q (f a)) :
    Takes (do
      noteAnchor none
      let a ← x
      pure (f a)) ts us q :=
  (takes_noteAnchor (q := fun _ => True) trivial).bind fun _ _ =>
    hx.bind fun a ha => .pure (hq a ha)

variable {q : Node → Prop} {block level : Bool}

/-- A scalar is a node. -/
theorem takes_scalar {plain : Bool} {v : Text} (fuel : Nat)
    (h : ∀ place, q (.scalar none place (if plain then plainTag v else .text) v)) :
    Takes (node ended block level (fuel + 1)) (.scalar plain v :: ts) ts q := by
  rw [node]
  refine .peek_bind (takes_bare rfl (.peek_bind ?_))
  rw [show (Token.scalar plain v == Token.blockEntry) = false from rfl, Bool.and_false]
  exact .shift_bind (takes_collection .place fun n _ => h n)

/-- A block sequence is a node. -/
theorem takes_blockSequence {fuel : Nat} {r : List Node → Prop}
    (hitems : Takes (blockItems ended fuel) ts us r)
    (h : ∀ ns, r ns → q (.sequence none .sequence ns)) :
    Takes (node ended true level (fuel + 1)) (.blockSequence :: ts) us q := by
  rw [node]
  refine .peek_bind (takes_bare rfl (.peek_bind ?_))
  rw [show (Token.blockSequence == Token.blockEntry) = false from rfl, Bool.and_false]
  exact .shift_bind (takes_collection hitems h)

/-- A block mapping is a node. -/
theorem takes_blockMapping {fuel : Nat} {r : List (Node × Node) → Prop}
    (hentries : Takes (blockEntries ended fuel) ts us r)
    (h : ∀ es, r es → q (.mapping none .mapping es)) :
    Takes (node ended true level (fuel + 1)) (.blockMapping :: ts) us q := by
  rw [node]
  refine .peek_bind (takes_bare rfl (.peek_bind ?_))
  rw [show (Token.blockMapping == Token.blockEntry) = false from rfl, Bool.and_false]
  exact .shift_bind (takes_collection hentries h)

/-- A sequence of the same indentation as the mapping around it is a node. -/
theorem takes_levelSequence {fuel : Nat} {r : List Node → Prop}
    (hitems : Takes (levelItems ended fuel) (.blockEntry :: ts) us r)
    (h : ∀ ns, r ns → q (.sequence none .sequence ns)) :
    Takes (node ended block true (fuel + 1)) (.blockEntry :: ts) us q := by
  rw [node]
  exact .peek_bind (takes_bare rfl (.peek_bind (takes_collection hitems h)))

/-- An empty list between brackets is a node. -/
theorem takes_emptyList (fuel : Nat) (h : q (.sequence none .sequence [])) :
    Takes (node ended block level (fuel + 2)) (.flowSequence :: .flowSequenceEnd :: ts) ts q := by
  rw [node]
  refine .peek_bind (takes_bare rfl (.peek_bind ?_))
  rw [show (Token.flowSequence == Token.blockEntry) = false from rfl, Bool.and_false]
  refine .shift_bind (takes_collection (r := (· = [])) ?_ fun ns hns => hns ▸ h)
  rw [flowItems]
  exact .peek_bind (.shift_bind (.pure rfl))

/-- An empty mapping between braces is a node. -/
theorem takes_emptyMap (fuel : Nat) (h : q (.mapping none .mapping [])) :
    Takes (node ended block level (fuel + 2)) (.flowMapping :: .flowMappingEnd :: ts) ts q := by
  rw [node]
  refine .peek_bind (takes_bare rfl (.peek_bind ?_))
  rw [show (Token.flowMapping == Token.blockEntry) = false from rfl, Bool.and_false]
  refine .shift_bind (takes_collection (r := (· = [])) ?_ fun es hes => hes ▸ h)
  rw [flowEntries]
  exact .peek_bind (.shift_bind (.pure rfl))

/-- A node where none of some tokens stands. -/
theorem takes_unless {stops : List Token} {fuel : Nat} (ht : stops.contains t = false)
    (h : Takes (node ended block level fuel) (t :: ts) us q) :
    Takes (nodeUnless ended stops block level (fuel + 1)) (t :: ts) us q := by
  rw [nodeUnless]
  refine .peek_bind ?_
  rw [ht]
  exact h

/-! ### The scalars of a value -/

/-- In ASCII lower case is a matter of each letter alone. -/
theorem lowerAfter_of_ascii (before : List Char) {cs : List Char} (h : ∀ c ∈ cs, c.toNat < 0x80) :
    Text.lowerAfter before cs = cs.map Char.toLower := by
  induction cs generalizing before with
  | nil => rfl
  | cons c cs ih =>
    rw [List.forall_mem_cons] at h
    have hsigma : c.toNat ≠ 0x3a3 := by omega
    rw [Text.lowerAfter, if_neg hsigma, Text.lowerChar, if_pos h.1, ih _ h.2]
    rfl

/-- A text of characters holds no halves. -/
theorem leadingChars_map (cs : List Char) : Text.leadingChars (cs.map .char) = (cs, []) := by
  induction cs with
  | nil => rfl
  | cons c cs ih => rw [List.map_cons, Text.leadingChars, ih]

/-- The lower case of ASCII characters. -/
theorem lower_of_ascii {cs : List Char} (h : ∀ c ∈ cs, c.toNat < 0x80) :
    (Text.ofChars cs).lower = .ofChars (cs.map Char.toLower) := by
  cases cs with
  | nil => simp [Text.lower, Text.mapChars, Text.ofChars, Text.mapCharsFrom]
  | cons c cs =>
    have hpoints : Text.mapCharsFrom Text.lowerChars ((c :: cs).map .char) =
        ((c :: cs).map Char.toLower).map .char := by
      rw [List.map_cons, Text.mapCharsFrom, leadingChars_map, Text.lowerChars,
        lowerAfter_of_ascii [] h, Text.mapCharsFrom, List.append_nil]
    exact congrArg Text.mk hpoints

/-- The words that truth values are written as are read as these. -/
theorem boolValue_words : boolValue "true" = .ok true ∧ boolValue "false" = .ok false := by
  have htrue : ("true" : Text).lower = "true" := lower_of_ascii (by simp)
  have hfalse : ("false" : Text).lower = "false" := lower_of_ascii (by simp)
  constructor
  · rw [boolValue, htrue]
    rfl
  · rw [boolValue, hfalse]
    rfl

/-- A text shows itself, as a key and as a value. -/
theorem shows_text (asKey : Bool) (t : Text) (place : Nat) :
    Shows (.scalar none place (if styleOf asKey t == .plain then plainTag t else .text) t)
      (.scalar (.text t)) := by
  have htag : (if styleOf asKey t == .plain then plainTag t else .text) = .text := by
    split
    · next hplain =>
      rw [beq_iff_eq, styleOf] at hplain
      split at hplain
      · cases hplain
      · split at hplain
        · next htext =>
          simp only [Bool.and_eq_true, beq_iff_eq] at htext
          exact htext.1.1
        · split at hplain <;> cases hplain
    · rfl
  rw [htag]
  exact .scalar rfl rfl

/-- A scalar shows what it is written for. -/
theorem shows_scalar {v : Value} {style : Style} {s : Text} (hv : v.Plain)
    (hlong : v.holdsLongInt = false) (hform : scalarForm? v = some (style, s)) (place : Nat) :
    Shows (.scalar none place (if style == .plain then plainTag s else .text) s) v.toDoc := by
  cases v with
  | null =>
    obtain ⟨⟩ := hform
    have htag : plainTag "null" = .null := by decide +kernel
    show Shows (.scalar none place (plainTag "null") "null") _
    rw [htag]
    exact .scalar rfl rfl
  | bool b =>
    obtain ⟨⟩ := hform
    cases b with
    | true =>
      have htag : plainTag "true" = .bool := by decide +kernel
      show Shows (.scalar none place (plainTag "true") "true") _
      rw [htag]
      exact .scalar rfl (congrArg (Scalar.bool <$> ·) boolValue_words.1)
    | false =>
      have htag : plainTag "false" = .bool := by decide +kernel
      show Shows (.scalar none place (plainTag "false") "false") _
      rw [htag]
      exact .scalar rfl (congrArg (Scalar.bool <$> ·) boolValue_words.2)
  | int n =>
    obtain ⟨⟩ := hform
    show Shows (.scalar none place (plainTag _) _) _
    rw [plainTag_intText]
    exact .scalar rfl (congrArg (Scalar.int <$> ·) (integerValue_intText hlong))
  -- A workflow holds no such number, and a plain value none either.
  | float x => exact hv.elim
  | text t =>
    obtain ⟨⟩ := hform
    exact shows_text false s place
  | list vs => cases hform
  | map es => cases hform

/-! ### The tree of a value -/

/-- Putting an entry into a mapping is the same for values and for their documents. -/
theorem putEntry_entriesToDoc (k : Text) (v : Value) (es : List (Text × Value)) :
    Doc.putEntry (.text k) v.toDoc (Value.entriesToDoc es) =
      Value.entriesToDoc (putEntry k v es) := by
  induction es with
  | nil => rfl
  | cons e es ih =>
    have hkey : Scalar.sameKey (.text e.1) (.text k) = (e.1 == k) := rfl
    rw [Value.entriesToDoc, Doc.putEntry, putEntry, hkey, ih]
    split <;> rfl

/-- The keys of a plain mapping are distinct keys of its document. -/
theorem distinctEntries_entriesToDoc {es : List (Text × Value)} (h : (es.map Prod.fst).Nodup) :
    Doc.distinctEntries (Value.entriesToDoc es) = Value.entriesToDoc es := by
  have hfold (acc es : List (Text × Value)) :
      (Value.entriesToDoc es).foldl (fun acc e => Doc.putEntry e.1 e.2 acc)
          (Value.entriesToDoc acc) =
        Value.entriesToDoc (es.foldl (fun acc e => putEntry e.1 e.2 acc) acc) := by
    induction es generalizing acc with
    | nil => rfl
    | cons e es ih => rw [Value.entriesToDoc, List.foldl_cons, putEntry_entriesToDoc, ih]; rfl
  have hdistinct := hfold [] es
  rwa [show es.foldl _ [] = es from distinctEntries_of_nodup h] at hdistinct

/-- The first token of a value. -/
theorem valueTokens_eq_cons {v : Value} (level : Bool) :
    ∃ t ts, valueTokens level v = t :: ts ∧ (t ≠ .key ∧ t ≠ .value ∧ t ≠ .blockEnd) ∧
      (level = false → t ≠ .blockEntry) := by
  have hother {t : Token} {ts : List Token} (htokens : valueTokens level v = t :: ts)
      (ht : (t ≠ .key ∧ t ≠ .value ∧ t ≠ .blockEnd) ∧ t ≠ .blockEntry) :
      ∃ t ts, valueTokens level v = t :: ts ∧ (t ≠ .key ∧ t ≠ .value ∧ t ≠ .blockEnd) ∧
        (level = false → t ≠ .blockEntry) :=
    ⟨t, ts, htokens, ht.1, fun _ => ht.2⟩
  cases v with
  | list vs =>
    cases vs with
    | nil => exact hother rfl (by simp)
    | cons v vs =>
      cases level with
      | true => exact ⟨_, _, rfl, by simp, nofun⟩
      | false => exact hother rfl (by simp)
  | map es =>
    cases es with
    | nil => exact hother rfl (by simp)
    | cons e es => exact hother rfl (by simp)
  | _ => exact hother rfl (by simp [textToken])

/-- A value is a node where the marks of entries and the end of a block are looked for, and so are
hyphens if its own are not. -/
theorem takes_unlessValue {stops : List Token} {v : Value} {level keyed : Bool} {fuel : Nat}
    (hstops : ∀ t ∈ stops, t = .key ∨ t = .value ∨ t = .blockEnd ∨ level = false ∧ t = .blockEntry)
    (h : Takes (node ended true keyed fuel) (valueTokens level v ++ us) us q) :
    Takes (nodeUnless ended stops true keyed (fuel + 1)) (valueTokens level v ++ us) us q := by
  obtain ⟨t, ts, htokens, ⟨hkey, hvalue, hend⟩, hitem⟩ := valueTokens_eq_cons (v := v) level
  have ht : t ∉ stops := fun ht => by
    rcases hstops t ht with rfl | rfl | rfl | ⟨hlevel, rfl⟩
    · exact hkey rfl
    · exact hvalue rfl
    · exact hend rfl
    · exact hitem hlevel rfl
  rw [htokens, List.cons_append] at h ⊢
  exact takes_unless (by simpa using ht) h

/-- No hyphen stands where an entry or the end of a block does. -/
theorem entryTokens_head (es : List (Text × Value)) (rest : List Token) :
    ∃ t ts, entryTokens es ++ .blockEnd :: rest = t :: ts ∧ t ≠ .blockEntry := by
  cases es with
  | nil => exact ⟨_, _, rfl, nofun⟩
  | cons e es => exact ⟨.key, _, rfl, nofun⟩

mutual

/-- **The tokens of a value are read into a tree that shows it.**  A sequence that is not indented
further than the mapping around it ends where no hyphen follows.  Reading goes down by three steps
at most for each token. -/
theorem takes_value {rest : List Token} {fuel : Nat} {keyed : Bool} (level : Bool) (v : Value)
    (hv : v.Plain) (hlong : v.holdsLongInt = false) (hlevel : level = true → keyed = true ∧
      ∃ t ts, rest = t :: ts ∧ t ≠ .blockEntry) (hfuel : 3 * (valueTokens level v).length ≤ fuel) :
    Takes (node ended true keyed fuel) (valueTokens level v ++ rest) rest (Shows · v.toDoc) := by
  obtain ⟨fuel, rfl⟩ : ∃ k, fuel = k + 1 := by
    obtain ⟨t, ts, htokens, -⟩ := valueTokens_eq_cons (v := v) level
    rw [htokens, List.length_cons] at hfuel
    exact ⟨fuel - 1, by omega⟩
  cases v with
  | list vs =>
    cases vs with
    | nil =>
      obtain ⟨fuel, rfl⟩ : ∃ k, fuel = k + 1 := ⟨fuel - 1, by simp [valueTokens] at hfuel; omega⟩
      exact takes_emptyList fuel (.list .nil)
    | cons v vs =>
      rw [valueTokens_list] at hfuel ⊢
      -- Only the list of a key on one line can stand at the level of the mapping around it.
      cases level with
      | true =>
        obtain ⟨rfl, hrest⟩ := hlevel rfl
        rw [if_pos rfl] at hfuel ⊢
        have hpos : 0 < fuel := by
          rw [itemTokens_cons, List.length_cons] at hfuel
          omega
        exact takes_levelSequence (takes_levelItems (v :: vs) hv hlong hpos (by omega) hrest)
          fun ns hns => .list hns
      | false =>
        rw [if_neg Bool.false_ne_true] at hfuel ⊢
        simp only [List.length_cons, List.length_append] at hfuel
        rw [List.cons_append, List.append_assoc]
        exact takes_blockSequence (takes_blockItems (v :: vs) hv hlong (by omega) (by omega))
          fun ns hns => .list hns
  | map es =>
    cases es with
    | nil =>
      obtain ⟨fuel, rfl⟩ : ∃ k, fuel = k + 1 := ⟨fuel - 1, by simp [valueTokens] at hfuel; omega⟩
      exact takes_emptyMap fuel (.map .nil rfl)
    | cons e es =>
      rw [valueTokens_map] at hfuel ⊢
      simp only [List.length_cons, List.length_append] at hfuel
      rw [List.cons_append, List.append_assoc]
      exact takes_blockMapping (takes_blockEntries (e :: es) hv.2 hlong (by omega) (by omega))
        fun ns hns => .map hns (distinctEntries_entriesToDoc hv.1)
  | _ => exact takes_scalar fuel (shows_scalar hv hlong rfl)

/-- The items of a list are taken up to the end of its block. -/
theorem takes_blockItems {rest : List Token} {fuel : Nat} (vs : List Value) (hv : PlainItems vs)
    (hlong : Value.anyLongInt vs = false) (hpos : 0 < fuel)
    (hfuel : 3 * (itemTokens vs).length ≤ fuel + 1) :
    Takes (blockItems ended fuel) (itemTokens vs ++ .blockEnd :: rest) rest
      (ShowsItems · (Value.itemsToDoc vs)) := by
  obtain ⟨fuel, rfl⟩ : ∃ k, fuel = k + 1 := ⟨fuel - 1, by omega⟩
  rw [blockItems]
  cases vs with
  | nil => exact .peek_bind (.shift_bind (.pure .nil))
  | cons v vs =>
    rw [Value.anyLongInt, Bool.or_eq_false_iff] at hlong
    rw [itemTokens_cons, List.length_cons, List.length_append] at hfuel
    rw [itemTokens_cons, List.cons_append, List.append_assoc]
    obtain ⟨fuel, rfl⟩ : ∃ k, fuel = k + 1 := ⟨fuel - 1, by omega⟩
    refine .peek_bind (.shift_bind ?_)
    have hnode : Takes (node ended true false fuel)
        (valueTokens false v ++ (itemTokens vs ++ .blockEnd :: rest))
        (itemTokens vs ++ .blockEnd :: rest) (Shows · v.toDoc) :=
      takes_value false v hv.1 hlong.1 nofun (by omega)
    exact (takes_unlessValue (by simp) hnode).bind fun n hn =>
      (takes_blockItems vs hv.2 hlong.2 (Nat.succ_pos _) (by omega)).bind fun ns hns =>
        .pure (.cons hn hns)

/-- Items at the level of the mapping around them have no block of their own: they are taken up to
the first token that is no hyphen. -/
theorem takes_levelItems {rest : List Token} {fuel : Nat} (vs : List Value) (hv : PlainItems vs)
    (hlong : Value.anyLongInt vs = false) (hpos : 0 < fuel)
    (hfuel : 3 * (itemTokens vs).length ≤ fuel + 1)
    (hrest : ∃ t ts, rest = t :: ts ∧ t ≠ .blockEntry) :
    Takes (levelItems ended fuel) (itemTokens vs ++ rest) rest
      (ShowsItems · (Value.itemsToDoc vs)) := by
  obtain ⟨fuel, rfl⟩ : ∃ k, fuel = k + 1 := ⟨fuel - 1, by omega⟩
  rw [levelItems]
  cases vs with
  | nil =>
    obtain ⟨t, ts, rfl, ht⟩ := hrest
    refine .peek_bind ?_
    cases t <;> first | exact absurd rfl ht | exact .pure .nil
  | cons v vs =>
    rw [Value.anyLongInt, Bool.or_eq_false_iff] at hlong
    rw [itemTokens_cons, List.length_cons, List.length_append] at hfuel
    rw [itemTokens_cons, List.cons_append, List.append_assoc]
    obtain ⟨fuel, rfl⟩ : ∃ k, fuel = k + 1 := ⟨fuel - 1, by omega⟩
    refine .peek_bind (.shift_bind ?_)
    have hnode : Takes (node ended true false fuel)
        (valueTokens false v ++ (itemTokens vs ++ rest)) (itemTokens vs ++ rest)
        (Shows · v.toDoc) :=
      takes_value false v hv.1 hlong.1 nofun (by omega)
    exact (takes_unlessValue (by simp) hnode).bind fun n hn =>
      (takes_levelItems vs hv.2 hlong.2 (Nat.succ_pos _) (by omega) hrest).bind fun ns hns =>
        .pure (.cons hn hns)

/-- The entries of a mapping are taken up to the end of its block. -/
theorem takes_blockEntries {rest : List Token} {fuel : Nat} (es : List (Text × Value))
    (hv : PlainEntries es) (hlong : Value.anyEntryLongInt es = false) (hpos : 0 < fuel)
    (hfuel : 3 * (entryTokens es).length ≤ fuel + 1) :
    Takes (blockEntries ended fuel) (entryTokens es ++ .blockEnd :: rest) rest
      (ShowsEntries · (Value.entriesToDoc es)) := by
  obtain ⟨fuel, rfl⟩ : ∃ k, fuel = k + 1 := ⟨fuel - 1, by omega⟩
  rw [blockEntries]
  cases es with
  | nil => exact .peek_bind (.shift_bind (.pure .nil))
  | cons e es =>
    obtain ⟨k, v⟩ := e
    rw [Value.anyEntryLongInt, Bool.or_eq_false_iff] at hlong
    rw [entryTokens_cons, keyTokens, List.length_append, List.length_append] at hfuel
    simp only [List.length_cons, List.length_nil] at hfuel
    rw [entryTokens_cons, List.append_assoc, List.append_assoc]
    obtain ⟨fuel, rfl⟩ : ∃ k, fuel = k + 2 := ⟨fuel - 2, by omega⟩
    refine .peek_bind (.shift_bind ?_)
    have hkey : Takes (nodeUnless ended [.key, .value, .blockEnd] true true (fuel + 2))
        (textToken (styleOf (isSimpleKey k) k) k :: .value :: (valueTokens (isSimpleKey k) v ++
          (entryTokens es ++ .blockEnd :: rest)))
        (.value :: (valueTokens (isSimpleKey k) v ++ (entryTokens es ++ .blockEnd :: rest)))
        (Shows · (.scalar (.text k))) :=
      takes_unless rfl (takes_scalar fuel (shows_text _ k))
    refine hkey.bind fun n hn => ?_
    have hnode : Takes (node ended true true fuel)
        (valueTokens (isSimpleKey k) v ++ (entryTokens es ++ .blockEnd :: rest))
        (entryTokens es ++ .blockEnd :: rest) (Shows · v.toDoc) :=
      takes_value _ v hv.1 hlong.1 (fun _ => ⟨rfl, entryTokens_head es rest⟩) (by omega)
    have hvalue : Takes (valueAfter ended [.key, .value, .blockEnd] true true (fuel + 2))
        (.value :: (valueTokens (isSimpleKey k) v ++ (entryTokens es ++ .blockEnd :: rest)))
        (entryTokens es ++ .blockEnd :: rest) (Shows · v.toDoc) := by
      rw [valueAfter]
      exact .peek_bind (.shift_bind (takes_unlessValue (by simp) hnode))
    exact hvalue.bind fun d hd =>
      (takes_blockEntries es hv.2 hlong.2 (Nat.succ_pos _) (by omega)).bind fun ns hns =>
        .pure (.cons hn hd hns)

end

end Node
end Yaml
end WorkflowKit
