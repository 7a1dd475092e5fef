/-
# Reading written JSON

A plain value is one without floating-point numbers whose mappings have distinct keys.  What is
written for a plain value is read as the value (`read_write`), provided that its integers may be
written at all.

The writer puts each item and entry on a line of its own.  So the reader meets a line start and
blanks, passes over them (`skipGap_lineStart`), and goes on with the first character of a value,
which is no blank and ends no collection (`written_eq_cons`).  The length of the written text is
enough fuel.
-/

import WorkflowKit.Proofs.Json.Text
import WorkflowKit.Proofs.Value.Entries

namespace WorkflowKit

namespace Value

mutual

/-- A value without floating-point numbers whose mappings have distinct keys. -/
def Plain : Value → Prop
  | list items => PlainItems items
  | map entries => (entries.map Prod.fst).Nodup ∧ PlainEntries entries
  | float _ => False
  | _ => True

/-- The items of a plain list. -/
def PlainItems : List Value → Prop
  | [] => True
  | v :: vs => v.Plain ∧ PlainItems vs

/-- The entries of a plain mapping. -/
def PlainEntries : List (Text × Value) → Prop
  | [] => True
  | (_, v) :: es => v.Plain ∧ PlainEntries es

end

/-- A list is plain exactly if each of its items is. -/
theorem plainItems_iff {vs : List Value} : PlainItems vs ↔ ∀ v ∈ vs, v.Plain := by
  induction vs with
  | nil => simp [PlainItems]
  | cons v vs ih => simp [PlainItems, ih]

/-- Apart from its keys, a mapping is plain exactly if each of its values is. -/
theorem plainEntries_iff {es : List (Text × Value)} :
    PlainEntries es ↔ ∀ e ∈ es, e.2.Plain := by
  induction es with
  | nil => simp [PlainEntries]
  | cons e es ih => simp [PlainEntries, ih]

end Value

namespace Json

open Value (PlainItems PlainEntries anyLongInt anyEntryLongInt)

/-! ### Between the values -/

/-- Blanks are passed over one by one. -/
theorem skipGap_gaps {ps : List CodePoint} (h : ∀ p ∈ ps, p.isCharWith isGap = true) (pos : Nat)
    (qs : List CodePoint) : skipGap pos (ps ++ qs) = skipGap (pos + ps.length) qs := by
  induction ps generalizing pos with
  | nil => rfl
  | cons p ps ih =>
    rw [List.cons_append, skipGap, if_pos (h p (List.mem_cons_self ..)),
      ih fun q hq => h q (List.mem_cons_of_mem _ hq), List.length_cons, Nat.add_assoc,
      Nat.add_comm 1]

/-- The start of a line is passed over. -/
theorem skipGap_lineStart (depth pos : Nat) (qs : List CodePoint) :
    skipGap pos (lineStart depth ++ qs) = skipGap (pos + (lineStart depth).length) qs := by
  refine skipGap_gaps (fun p hp => ?_) pos qs
  rw [lineStart, List.mem_map] at hp
  obtain ⟨c, hc, rfl⟩ := hp
  rcases List.mem_cons.1 hc with rfl | hc
  · rfl
  · rw [List.eq_of_mem_replicate hc]; rfl

/-- Before anything else the reader stays where it is. -/
theorem skipGap_of_not_gap {c : Char} (h : isGap c = false) (pos : Nat) (ps : List CodePoint) :
    skipGap pos (.char c :: ps) = ⟨pos, .char c :: ps⟩ := by
  rw [skipGap, if_neg (by rw [CodePoint.isCharWith, h]; exact Bool.false_ne_true)]

/-- A character that no number can go on with ends a number. -/
theorem endsNumber_cons {c : Char} (h : isNumberChar c = false) (ps : List CodePoint) :
    EndsNumber (.char c :: ps) := by
  rintro p ⟨⟩
  exact h

/-- The start of a line ends a number. -/
theorem endsNumber_lineStart (depth : Nat) (ps : List CodePoint) :
    EndsNumber (lineStart depth ++ ps) :=
  endsNumber_cons (c := '\n') rfl _

/-- The start of a line takes up text, namely its line end. -/
theorem length_lineStart_pos (depth : Nat) : 0 < (lineStart depth).length := by
  simp [lineStart]

/-- The characters that a value begins with are no blanks and do not end a collection. -/
def isValueStart (c : Char) : Bool :=
  !isGap c && c != ']' && c != '\x7d' && c != '\ufeff'

/-- A digit begins a value. -/
theorem isValueStart_of_isDigit {c : Char} (h : c.isDigit = true) : isValueStart c = true := by
  have hne {d : Char} (hd : d.isDigit = false) : c ≠ d := by
    rintro rfl
    rw [hd] at h
    exact absurd h (by decide)
  simp [isValueStart, isGap, hne (d := ' ') rfl, hne (d := '\t') rfl, hne (d := '\n') rfl,
    hne (d := '\r') rfl, hne (d := ']') rfl, hne (d := '\x7d') rfl,
    hne (d := '\ufeff') rfl]

/-- An integer is written with a minus sign or a digit in front. -/
theorem intText_eq_cons (n : Int) :
    ∃ c cs, Number.intText n = c :: cs ∧ (c = '-' ∨ c.isDigit = true) := by
  obtain ⟨d, ds, hd⟩ := List.exists_cons_of_ne_nil (Number.natText_ne_nil n.natAbs)
  rw [Number.intText]
  split
  · exact ⟨_, _, rfl, .inl rfl⟩
  · exact ⟨d, ds, hd, .inr (Number.isDigit_of_mem_natText (hd ▸ List.mem_cons_self ..))⟩

/-- **A written value begins with a character of its own**, neither a blank nor the end of a
collection. -/
theorem written_eq_cons {v : Value} (hv : v.Plain) (depth : Nat) :
    ∃ c ps, written depth v = .char c :: ps ∧ isValueStart c = true := by
  match v with
  | .null => exact ⟨_, _, rfl, rfl⟩
  | .bool true => exact ⟨_, _, rfl, rfl⟩
  | .bool false => exact ⟨_, _, rfl, rfl⟩
  | .int n =>
    obtain ⟨c, cs, h, hc⟩ := intText_eq_cons n
    refine ⟨c, cs.map .char, by rw [written, h, List.map_cons], ?_⟩
    rcases hc with rfl | hc
    · rfl
    · exact isValueStart_of_isDigit hc
  | .text _ => exact ⟨_, _, rfl, rfl⟩
  | .list [] => exact ⟨_, _, rfl, rfl⟩
  | .list (_ :: _) => exact ⟨_, _, rfl, rfl⟩
  | .map [] => exact ⟨_, _, rfl, rfl⟩
  | .map (_ :: _) => exact ⟨_, _, rfl, rfl⟩
  | .float _ => exact hv.elim

/-- Before a written value there is nothing to pass over. -/
theorem skipGap_written {v : Value} (hv : v.Plain) (depth pos : Nat) (rest : List CodePoint) :
    skipGap pos (written depth v ++ rest) = ⟨pos, written depth v ++ rest⟩ := by
  obtain ⟨c, ps, h, hc⟩ := written_eq_cons hv depth
  simp only [isValueStart, Bool.and_eq_true, Bool.not_eq_true'] at hc
  rw [h, List.cons_append, skipGap_of_not_gap hc.1.1.1]

/-! ### Values -/

/-- What is neither a text nor a collection is a word or a number. -/
theorem value_eq_atom {fuel pos : Nat} {c : Char} {ps : List CodePoint}
    (h : c ≠ '"' ∧ c ≠ '\x7b' ∧ c ≠ '[') :
    value asValue (fuel + 1) ⟨pos, .char c :: ps⟩ = atom asValue ⟨pos, .char c :: ps⟩ := by
  rw [value]
  split <;> simp_all

/-- A written text is read back, whatever follows it. -/
theorem value_text (t : Text) (fuel pos : Nat) (rest : List CodePoint) :
    ∃ pos', value asValue (fuel + 1) ⟨pos, writtenText t ++ rest⟩ =
      .ok (.text t, ⟨pos', rest⟩) := by
  obtain ⟨pos', h⟩ := textBody_written t.points pos (pos + 1) [] rest
  refine ⟨pos', ?_⟩
  rw [writtenText, List.cons_append, value]
  simp only [List.append_assoc, List.singleton_append, h]
  rfl

/-- A written integer is read back where no digit, point or exponent follows, unless it is too long
to be read. -/
theorem value_int {n : Int} (hn : Number.exceedsDigitLimit n = false) (fuel pos : Nat)
    {rest : List CodePoint} (hrest : EndsNumber rest) :
    ∃ pos', value asValue (fuel + 1) ⟨pos, (Number.intText n).map .char ++ rest⟩ =
      .ok (.int n, ⟨pos', rest⟩) := by
  obtain ⟨pos', h⟩ := atom_intText hn pos hrest
  refine ⟨pos', ?_⟩
  obtain ⟨c, cs, heq, hc⟩ := intText_eq_cons n
  rw [heq, List.map_cons, List.cons_append] at h ⊢
  rw [value_eq_atom, h]
  rcases hc with rfl | hc
  · decide
  · refine ⟨?_, ?_, ?_⟩ <;> (rintro rfl; exact absurd hc (by decide))

/-- The last item of a list: behind it comes the bracket, on a line of its own. -/
theorem items_close {v : Value} {fuel pos pos₁ depth : Nat} {acc : List Value}
    {ps rest : List CodePoint}
    (hv : value asValue fuel ⟨pos, ps⟩ =
      .ok (v, ⟨pos₁, lineStart depth ++ .char ']' :: rest⟩)) :
    ∃ pos', items asValue (fuel + 1) acc ⟨pos, ps⟩ =
      .ok (.list (acc.reverse ++ [v]), ⟨pos', rest⟩) := by
  refine ⟨pos₁ + (lineStart depth).length + 1, ?_⟩
  simp only [items, hv, bind, Except.bind, Cursor.skip, skipGap_lineStart]
  rw [skipGap_of_not_gap (by decide), List.reverse_cons]
  rfl

/-- Any other item: behind it comes a comma. -/
theorem items_next {v : Value} {fuel pos pos₁ : Nat} {acc : List Value} {ps qs : List CodePoint}
    (hv : value asValue fuel ⟨pos, ps⟩ = .ok (v, ⟨pos₁, .char ',' :: qs⟩)) :
    items asValue (fuel + 1) acc ⟨pos, ps⟩ =
      items asValue fuel (v :: acc) (skipGap (pos₁ + 1) qs) := by
  simp only [items, hv, bind, Except.bind, Cursor.skip]
  rw [skipGap_of_not_gap (by decide)]
  rfl

/-- An entry up to its value. -/
theorem entries_key (k : Text) (fuel pos : Nat) (acc : List (Text × Value))
    (ps : List CodePoint) :
    ∃ pos₁, entries asValue (fuel + 1) acc ⟨pos, writtenText k ++ .char ':' :: .char ' ' :: ps⟩ =
      (value asValue fuel (skipGap pos₁ ps)).bind fun r =>
        match r.2.skip.rest with
        | .char '\x7d' :: cs =>
          .ok (.map (distinctEntries ((k, r.1) :: acc).reverse), ⟨r.2.skip.pos + 1, cs⟩)
        | .char ',' :: cs => entries asValue fuel ((k, r.1) :: acc) (skipGap (r.2.skip.pos + 1) cs)
        | _ => .error (.malformed .noComma r.2.skip.pos) := by
  obtain ⟨pos₁, h₁⟩ := textBody_written k.points pos (pos + 1) []
    (.char ':' :: .char ' ' :: ps)
  refine ⟨pos₁ + 1 + 1, ?_⟩
  rw [writtenText, List.cons_append, entries]
  simp only [List.append_assoc, List.singleton_append, h₁, bind, Except.bind, Cursor.skip]
  rw [skipGap_of_not_gap (by decide)]
  rfl

/-- The last entry of a mapping: behind it comes the brace, on a line of its own.  With it the
entries are complete, and those with the same key are joined. -/
theorem entries_close {v : Value} (hv : v.Plain) {k : Text} {fuel depth depth' : Nat}
    {rest : List CodePoint}
    (h : ∀ pos, ∃ pos₁, value asValue fuel ⟨pos, written depth v ++ (lineStart depth' ++
      .char '\x7d' :: rest)⟩ = .ok (v, ⟨pos₁, lineStart depth' ++ .char '\x7d' :: rest⟩))
    (pos : Nat) (acc : List (Text × Value)) :
    ∃ pos', entries asValue (fuel + 1) acc ⟨pos, writtenText k ++ .char ':' :: .char ' ' ::
      (written depth v ++ (lineStart depth' ++ .char '\x7d' :: rest))⟩ =
        .ok (.map (distinctEntries (acc.reverse ++ [(k, v)])), ⟨pos', rest⟩) := by
  obtain ⟨pos₁, h₁⟩ := entries_key k fuel pos acc
    (written depth v ++ (lineStart depth' ++ .char '\x7d' :: rest))
  obtain ⟨pos₂, h₂⟩ := h pos₁
  refine ⟨pos₂ + (lineStart depth').length + 1, ?_⟩
  rw [h₁, skipGap_written hv, h₂, Except.bind]
  simp only [Cursor.skip, skipGap_lineStart]
  rw [skipGap_of_not_gap (by decide), List.reverse_cons]
  rfl

/-- Any other entry: behind it comes a comma. -/
theorem entries_next {v : Value} (hv : v.Plain) {k : Text} {fuel depth : Nat}
    {qs : List CodePoint}
    (h : ∀ pos, ∃ pos₁, value asValue fuel ⟨pos, written depth v ++ .char ',' :: qs⟩ =
      .ok (v, ⟨pos₁, .char ',' :: qs⟩))
    (pos : Nat) (acc : List (Text × Value)) :
    ∃ pos', entries asValue (fuel + 1) acc ⟨pos, writtenText k ++ .char ':' :: .char ' ' ::
      (written depth v ++ .char ',' :: qs)⟩ =
        entries asValue fuel ((k, v) :: acc) (skipGap pos' qs) := by
  obtain ⟨pos₁, h₁⟩ := entries_key k fuel pos acc (written depth v ++ .char ',' :: qs)
  obtain ⟨pos₂, h₂⟩ := h pos₁
  refine ⟨pos₂ + 1, ?_⟩
  rw [h₁, skipGap_written hv, h₂, Except.bind]
  simp only [Cursor.skip]
  rw [skipGap_of_not_gap (by decide)]
  rfl

/-- A word is read by `atom`. -/
theorem value_word (fuel pos : Nat) (rest : List CodePoint) {v : Value}
    (hv : v = .null ∨ v = .bool true ∨ v = .bool false) (depth : Nat) :
    ∃ pos', value asValue (fuel + 1) ⟨pos, written depth v ++ rest⟩ =
      .ok (v, ⟨pos', rest⟩) := by
  rcases hv with rfl | rfl | rfl <;> exact ⟨_, rfl⟩

/-- The place of an item after what stands before it on its line. -/
theorem skipGap_item {v : Value} (hv : v.Plain) (depth pos : Nat) (ps : List CodePoint) :
    ∃ pos', skipGap pos (lineStart depth ++ (written depth v ++ ps)) =
      ⟨pos', written depth v ++ ps⟩ :=
  ⟨_, by rw [skipGap_lineStart, skipGap_written hv]⟩

/-- Before the key of an entry the start of its line is passed over. -/
theorem skipGap_key (k : Text) (depth pos : Nat) (ps : List CodePoint) :
    ∃ pos', skipGap pos (lineStart depth ++ (writtenText k ++ ps)) = ⟨pos', writtenText k ++ ps⟩ :=
  ⟨_, by rw [skipGap_lineStart, writtenText, List.cons_append, skipGap_of_not_gap (by decide)]⟩

/-- No value is written as the empty text, so each one leaves fuel for what it holds. -/
theorem length_written_pos {v : Value} (hv : v.Plain) (depth : Nat) :
    0 < (written depth v).length := by
  obtain ⟨c, ps, h, -⟩ := written_eq_cons hv depth
  simp [h]

/-- A list that is not empty is written between brackets, its items one level deeper. -/
theorem written_list {vs : List Value} (h : vs ≠ []) (depth : Nat) :
    written depth (.list vs) =
      .char '[' :: (writtenItems (depth + 1) vs ++ (lineStart depth ++ [.char ']'])) := by
  rw [written, List.cons_append, List.cons_append, List.append_assoc]
  exact h

/-- A mapping that is not empty is written between braces, its entries one level deeper. -/
theorem written_map {es : List (Text × Value)} (h : es ≠ []) (depth : Nat) :
    written depth (.map es) =
      .char '\x7b' :: (writtenEntries (depth + 1) es ++ (lineStart depth ++ [.char '\x7d'])) := by
  rw [written, List.cons_append, List.cons_append, List.append_assoc]
  exact h

/-- The last item is followed by no comma. -/
theorem writtenItems_one (depth : Nat) (v : Value) :
    writtenItems depth [v] = lineStart depth ++ written depth v := by
  rw [writtenItems]

/-- Any other item is followed by a comma. -/
theorem writtenItems_cons {vs : List Value} (h : vs ≠ []) (depth : Nat) (v : Value) :
    writtenItems depth (v :: vs) =
      lineStart depth ++ (written depth v ++ .char ',' :: writtenItems depth vs) := by
  rw [writtenItems, List.append_assoc]
  exact h

/-- The last entry is followed by no comma. -/
theorem writtenEntries_one (depth : Nat) (k : Text) (v : Value) :
    writtenEntries depth [(k, v)] =
      lineStart depth ++ (writtenText k ++ .char ':' :: .char ' ' :: written depth v) := by
  rw [writtenEntries, writtenEntry, List.append_assoc]

/-- Any other entry is followed by a comma. -/
theorem writtenEntries_cons {es : List (Text × Value)} (h : es ≠ []) (depth : Nat) (k : Text)
    (v : Value) :
    writtenEntries depth ((k, v) :: es) =
      lineStart depth ++ (writtenText k ++ .char ':' :: .char ' ' ::
        (written depth v ++ .char ',' :: writtenEntries depth es)) := by
  rw [writtenEntries, writtenEntry, List.append_assoc, List.append_assoc]
  · rfl
  · exact h

/-- A list is read item by item. -/
theorem value_list {v : Value} (hv : v.Plain) (vs : List Value) (depth fuel pos : Nat)
    (rest : List CodePoint) :
    value asValue (fuel + 1) ⟨pos, written depth (.list (v :: vs)) ++ rest⟩ =
      items asValue fuel [] (skipGap (pos + 1) (writtenItems (depth + 1) (v :: vs) ++
        (lineStart depth ++ .char ']' :: rest))) := by
  obtain ⟨ps, hps⟩ : ∃ ps, writtenItems (depth + 1) (v :: vs) =
      lineStart (depth + 1) ++ (written (depth + 1) v ++ ps) := by
    cases vs with
    | nil => exact ⟨[], by rw [writtenItems_one, List.append_nil]⟩
    | cons w vs => exact ⟨_, writtenItems_cons (List.cons_ne_nil _ _) ..⟩
  obtain ⟨c, qs, h, hc⟩ := written_eq_cons hv (depth + 1)
  rw [written_list (List.cons_ne_nil _ _), hps, value.eq_def]
  simp only [List.cons_append, List.append_assoc, skipGap_lineStart, skipGap_written hv]
  rw [h, List.cons_append]
  split
  · next heq =>
    rw [CodePoint.char.inj (List.cons.inj heq).1] at hc
    exact absurd hc (by decide)
  · rfl

/-- A mapping is read entry by entry. -/
theorem value_map (k : Text) (v : Value) (es : List (Text × Value)) (depth fuel pos : Nat)
    (rest : List CodePoint) :
    value asValue (fuel + 1) ⟨pos, written depth (.map ((k, v) :: es)) ++ rest⟩ =
      entries asValue fuel [] (skipGap (pos + 1) (writtenEntries (depth + 1) ((k, v) :: es) ++
        (lineStart depth ++ .char '\x7d' :: rest))) := by
  obtain ⟨ps, hps⟩ : ∃ ps, writtenEntries (depth + 1) ((k, v) :: es) =
      lineStart (depth + 1) ++ (writtenText k ++ ps) := by
    cases es with
    | nil => exact ⟨_, writtenEntries_one ..⟩
    | cons e es => exact ⟨_, writtenEntries_cons (List.cons_ne_nil _ _) ..⟩
  rw [written_map (List.cons_ne_nil _ _), hps, value.eq_def]
  simp only [List.cons_append, List.append_assoc, skipGap_lineStart, writtenText]
  rw [skipGap_of_not_gap (by decide)]
  rfl

mutual

/-- **A written value is read as the value**, whatever follows that no number goes on with. -/
theorem value_written (v : Value) (hv : v.Plain) (hl : v.holdsLongInt = false)
    (depth fuel : Nat) {rest : List CodePoint} (hf : (written depth v).length ≤ fuel)
    (hrest : EndsNumber rest) (pos : Nat) :
    ∃ pos', value asValue fuel ⟨pos, written depth v ++ rest⟩ = .ok (v, ⟨pos', rest⟩) := by
  have hpos := length_written_pos hv depth
  obtain ⟨fuel, rfl⟩ := Nat.exists_eq_add_one_of_ne_zero (by omega : fuel ≠ 0)
  -- The match is on the value, so all that is said of it has to go with it.
  revert hv hl hf hpos
  match v with
  | .null => exact fun _ _ _ _ => value_word fuel pos rest (.inl rfl) depth
  | .bool true => exact fun _ _ _ _ => value_word fuel pos rest (.inr (.inl rfl)) depth
  | .bool false => exact fun _ _ _ _ => value_word fuel pos rest (.inr (.inr rfl)) depth
  | .int n =>
    intro _ hl _ _
    rw [Value.holdsLongInt] at hl
    rw [written]
    exact value_int hl fuel pos hrest
  | .float _ => exact fun hv => hv.elim
  | .text t =>
    intro _ _ _ _
    rw [written]
    exact value_text t fuel pos rest
  | .list [] => exact fun _ _ _ _ => ⟨pos + 2, rfl⟩
  | .list (v :: vs) =>
    intro hv hl _ hf
    rw [Value.holdsLongInt] at hl
    rw [Value.Plain] at hv
    rw [written_list (List.cons_ne_nil _ _), List.length_cons, List.length_append] at hf
    obtain ⟨pos', h⟩ := items_written (v :: vs) hv hl (depth + 1) fuel
      (List.cons_ne_nil _ _) (by omega) [] depth rest (pos + 1)
    exact ⟨pos', by rw [value_list hv.1, h]; rfl⟩
  | .map [] => exact fun _ _ _ _ => ⟨pos + 2, rfl⟩
  | .map ((k, v) :: es) =>
    intro hv hl _ hf
    rw [Value.holdsLongInt] at hl
    rw [Value.Plain] at hv
    rw [written_map (List.cons_ne_nil _ _), List.length_cons, List.length_append] at hf
    obtain ⟨pos', h⟩ := entries_written ((k, v) :: es) hv.2 hl (depth + 1) fuel
      (List.cons_ne_nil _ _) (by omega) [] depth rest (pos + 1)
    refine ⟨pos', ?_⟩
    rw [value_map, h, List.reverse_nil, List.nil_append, distinctEntries_of_nodup hv.1]

/-- The items of a written list are read from the first to the last. -/
theorem items_written (vs : List Value) (hv : PlainItems vs) (hl : anyLongInt vs = false)
    (depth fuel : Nat) (hne : vs ≠ []) (hf : (writtenItems depth vs).length ≤ fuel)
    (acc : List Value) (depth' : Nat) (rest : List CodePoint) (pos : Nat) :
    ∃ pos', items asValue fuel acc (skipGap pos (writtenItems depth vs ++ (lineStart depth' ++
      .char ']' :: rest))) = .ok (.list (acc.reverse ++ vs), ⟨pos', rest⟩) := by
  have hline := length_lineStart_pos depth
  revert hv hl hne hf
  match vs with
  | [] => exact fun _ _ hne => absurd rfl hne
  | [v] =>
    intro hv hl _ hf
    rw [PlainItems] at hv
    rw [anyLongInt, Bool.or_eq_false_iff] at hl
    rw [writtenItems_one, List.length_append] at hf
    obtain ⟨fuel, rfl⟩ := Nat.exists_eq_add_one_of_ne_zero (by omega : fuel ≠ 0)
    rw [writtenItems_one, List.append_assoc]
    obtain ⟨pos₁, h₁⟩ := skipGap_item hv.1 depth pos (lineStart depth' ++ .char ']' :: rest)
    obtain ⟨pos₂, h₂⟩ := value_written v hv.1 hl.1 depth fuel
      (by omega) (endsNumber_lineStart depth' (.char ']' :: rest)) pos₁
    rw [h₁]
    exact items_close h₂
  | v :: w :: vs =>
    intro hv hl _ hf
    rw [PlainItems] at hv
    rw [anyLongInt, Bool.or_eq_false_iff] at hl
    rw [writtenItems_cons (List.cons_ne_nil _ _), List.length_append, List.length_append,
      List.length_cons] at hf
    obtain ⟨fuel, rfl⟩ := Nat.exists_eq_add_one_of_ne_zero (by omega : fuel ≠ 0)
    rw [writtenItems_cons (List.cons_ne_nil _ _), List.append_assoc, List.append_assoc,
      List.cons_append]
    obtain ⟨pos₁, h₁⟩ := skipGap_item hv.1 depth pos (.char ',' ::
      (writtenItems depth (w :: vs) ++ (lineStart depth' ++ .char ']' :: rest)))
    obtain ⟨pos₂, h₂⟩ := value_written v hv.1 hl.1 depth fuel (by omega)
      (endsNumber_cons (c := ',') rfl _) pos₁
    obtain ⟨pos', h⟩ := items_written (w :: vs) hv.2 hl.2 depth fuel
      (List.cons_ne_nil _ _) (by omega) (v :: acc) depth' rest (pos₂ + 1)
    refine ⟨pos', ?_⟩
    rw [h₁, items_next h₂, h, List.reverse_cons, List.append_assoc]
    rfl

/-- The entries of a written mapping are read from the first to the last. -/
theorem entries_written (es : List (Text × Value)) (hv : PlainEntries es)
    (hl : anyEntryLongInt es = false) (depth fuel : Nat) (hne : es ≠ [])
    (hf : (writtenEntries depth es).length ≤ fuel) (acc : List (Text × Value)) (depth' : Nat)
    (rest : List CodePoint) (pos : Nat) :
    ∃ pos', entries asValue fuel acc (skipGap pos (writtenEntries depth es ++ (lineStart depth' ++
      .char '\x7d' :: rest))) = .ok (.map (distinctEntries (acc.reverse ++ es)), ⟨pos', rest⟩) := by
  have hline := length_lineStart_pos depth
  revert hv hl hne hf
  match es with
  | [] => exact fun _ _ hne => absurd rfl hne
  -- Behind the last entry there is no comma, so it is a case of its own.
  | [(k, v)] =>
    intro hv hl _ hf
    rw [PlainEntries] at hv
    rw [anyEntryLongInt, Bool.or_eq_false_iff] at hl
    rw [writtenEntries_one, List.length_append, List.length_append, List.length_cons,
      List.length_cons] at hf
    obtain ⟨fuel, rfl⟩ := Nat.exists_eq_add_one_of_ne_zero (by omega : fuel ≠ 0)
    rw [writtenEntries_one, List.append_assoc, List.append_assoc, List.cons_append,
      List.cons_append]
    obtain ⟨pos₁, h₁⟩ := skipGap_key k depth pos (.char ':' :: .char ' ' ::
      (written depth v ++ (lineStart depth' ++ .char '\x7d' :: rest)))
    rw [h₁]
    exact entries_close hv.1 (value_written v hv.1 hl.1 depth fuel (by omega)
      (endsNumber_lineStart depth' (.char '\x7d' :: rest))) pos₁ acc
  | (k, v) :: e :: es =>
    intro hv hl _ hf
    rw [PlainEntries] at hv
    rw [anyEntryLongInt, Bool.or_eq_false_iff] at hl
    rw [writtenEntries_cons (List.cons_ne_nil _ _), List.length_append, List.length_append,
      List.length_cons, List.length_cons, List.length_append, List.length_cons] at hf
    obtain ⟨fuel, rfl⟩ := Nat.exists_eq_add_one_of_ne_zero (by omega : fuel ≠ 0)
    rw [writtenEntries_cons (List.cons_ne_nil _ _), List.append_assoc, List.append_assoc,
      List.cons_append, List.cons_append, List.append_assoc, List.cons_append]
    obtain ⟨pos₁, h₁⟩ := skipGap_key k depth pos (.char ':' :: .char ' ' :: (written depth v ++
      .char ',' :: (writtenEntries depth (e :: es) ++ (lineStart depth' ++ .char '\x7d' :: rest))))
    obtain ⟨pos₂, h₂⟩ := entries_next hv.1 (k := k) (value_written v hv.1 hl.1 depth
      fuel (by omega) (endsNumber_cons (c := ',') rfl (writtenEntries depth (e :: es) ++
        (lineStart depth' ++ .char '\x7d' :: rest)))) pos₁ acc
    obtain ⟨pos', h⟩ := entries_written (e :: es) hv.2 hl.2 depth fuel
      (List.cons_ne_nil _ _) (by omega) ((k, v) :: acc) depth' rest pos₂
    refine ⟨pos', ?_⟩
    rw [h₁, h₂, h, List.reverse_cons, List.append_assoc]
    rfl

end

/-- **What is written for a plain value is read as the value.** -/
theorem read_write {v : Value} {t : Text} (hv : v.Plain) (h : write v = .ok t) :
    read t = .ok v := by
  rw [write] at h
  split at h
  · cases h
  · next hl =>
    cases h
    rw [Bool.not_eq_true] at hl
    obtain ⟨c, ps, hc, hstart⟩ := written_eq_cons hv 0
    have hend : EndsNumber [] := by rintro _ ⟨⟩
    obtain ⟨pos', h'⟩ := value_written v hv hl 0 ((written 0 v).length + 1) (by omega) hend 0
    have hgap := skipGap_written hv 0 0 []
    rw [List.append_nil] at h' hgap
    rw [read.eq_def]
    split
    · next heq =>
      rw [hc] at heq
      rw [CodePoint.char.inj (List.cons.inj heq).1] at hstart
      exact absurd hstart (by decide)
    · simp only [hgap, h']
      rfl

end Json
end WorkflowKit
