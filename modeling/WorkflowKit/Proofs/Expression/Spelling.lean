/-
# What a spelling leads to

Spelling adds no quotes (`isPlain_spelled`) and does not depend on how lines end
(`universalNewlines_spelled`).  Up to a literal, or up to the end of a text, the texts between
quotes are the same however words and signs are spelled (`Lead.level_spelled`): no word with another
spelling can stand before a quote as one of its letters, and no sign can.
-/

import WorkflowKit.Proofs.Expression.Lexed
import WorkflowKit.Proofs.Expression.Normal
import WorkflowKit.Proofs.Text.Blank

namespace WorkflowKit
namespace Expression

open Text (universalNewlines)

variable {s s' : Lead} {c : Char} {w v run : List Char}

/-! ### The characters of a spelling -/

/-- A word is kept, or is one of the few that have another spelling. -/
theorem respell_cases (v : List Char) :
    respell v = v ∨ ∃ e ∈ wordSpellings, v = e.1 ∧ respell v = e.2 := by
  rw [respell]
  cases h : wordSpellings.find? fun e => e.1 == v with
  | none => exact .inl rfl
  | some e =>
    have heq : e.1 = v := by simpa using List.find?_some h
    exact .inr ⟨e, List.mem_of_find?_eq_some h, heq.symm, rfl⟩

/-- The characters that spellings are written with. -/
def spellingChars : List Char :=
  [' ', '=', '!', '<', '>', 'T', 'r', 'u', 'e', 'F', 'a', 'l', 's', 'N', 'o', 'n', 'd', 't']

/-- The characters of a spelled word. -/
theorem mem_respell (h : c ∈ respell v) : c ∈ v ∨ c ∈ spellingChars := by
  have hchars : ∀ e ∈ wordSpellings, ∀ c ∈ e.2, c ∈ spellingChars := by
    simp [wordSpellings, spellingChars]
  obtain hv | ⟨e, he, -, hv⟩ := respell_cases v
  · exact .inl (hv ▸ h)
  · exact .inr (hchars e he c (hv ▸ h))

/-- The characters of a text whose words are spelled. -/
theorem mem_respellWords (h : c ∈ respellWords run w) : c ∈ run ∨ c ∈ w ∨ c ∈ spellingChars := by
  induction w generalizing run with
  | nil =>
    rw [respellWords] at h
    exact (mem_respell h).imp List.mem_reverse.1 .inr
  | cons d w ih =>
    rw [respellWords] at h
    split at h
    · rcases ih h with h | h | h
      · rcases List.mem_cons.1 h with rfl | h
        · exact .inr (.inl List.mem_cons_self)
        · exact .inl h
      · exact .inr (.inl (List.mem_cons_of_mem _ h))
      · exact .inr (.inr h)
    · rcases List.mem_append.1 h with h | h
      · exact (mem_respell h).imp List.mem_reverse.1 .inr
      · rcases List.mem_cons.1 h with rfl | h
        · exact .inr (.inl List.mem_cons_self)
        · rcases ih h with h | h | h
          · cases h
          · exact .inr (.inl (List.mem_cons_of_mem _ h))
          · exact .inr (.inr h)

/-- The characters of a text whose signs are spelled. -/
theorem mem_respellSigns (h : c ∈ respellSigns w) : c ∈ w ∨ c ∈ spellingChars := by
  have hwords : ∀ v ∈ [[' ', 'a', 'n', 'd', ' '], [' ', 'o', 'r', ' '], [' ', 'n', 'o', 't', ' ']],
      ∀ c ∈ v, c ∈ spellingChars := by
    simp [spellingChars]
  fun_induction respellSigns w with
  | case1 => cases h
  | case2 cs ih | case3 cs ih =>
    rcases List.mem_append.1 h with h | h
    · exact .inr (hwords _ (by simp) c h)
    · exact (ih h).imp_left fun h => List.mem_cons_of_mem _ (List.mem_cons_of_mem _ h)
  | case4 => exact .inr (hwords _ (by simp) c h)
  | case5 cs ih =>
    simp only [List.mem_cons] at h ⊢
    rcases h with h | h | h
    · exact .inl (.inl h)
    · exact .inl (.inr (.inl h))
    · exact (ih h).imp_left fun h => .inr (.inr h)
  | case6 d cs hd ih =>
    rcases List.mem_append.1 h with h | h
    · exact .inr (hwords _ (by simp) c h)
    · exact (ih h).imp_left (List.mem_cons_of_mem _)
  | case7 d cs _ _ _ _ _ ih =>
    rcases List.mem_cons.1 h with rfl | h
    · exact .inl List.mem_cons_self
    · exact (ih h).imp_left (List.mem_cons_of_mem _)

/-- A spelling adds none but the characters of the words and signs. -/
theorem mem_spelled (h : c ∈ spelled w) : c ∈ w ∨ c ∈ spellingChars := by
  rcases mem_respellSigns h with h | h
  · exact (mem_respellWords h).resolve_left (by simp)
  · exact .inr h

/-- Spelling a plain text adds no quotes. -/
theorem isPlain_spelled (hw : isPlain w = true) : isPlain (spelled w) = true := by
  have hchars : ∀ c ∈ spellingChars, isQuote c = false := by simp [spellingChars, isQuote]
  rw [isPlain, List.all_eq_true] at hw ⊢
  intro c hc
  rcases mem_spelled hc with hc | hc
  · exact hw c hc
  · rw [hchars c hc]
    rfl

/-- No word is spelled as nothing. -/
theorem respell_ne_nil (hv : v ≠ []) : respell v ≠ [] := by
  have hspellings : ∀ e ∈ wordSpellings, e.2 ≠ [] := by decide
  obtain h | ⟨e, he, -, h⟩ := respell_cases v
  · rwa [h]
  · rw [h]
    exact hspellings e he

/-- No text loses all its characters when its words are spelled. -/
theorem respellWords_ne_nil (h : run ≠ [] ∨ w ≠ []) : respellWords run w ≠ [] := by
  induction w generalizing run with
  | nil =>
    rw [respellWords]
    exact respell_ne_nil (by simpa using h)
  | cons c w ih =>
    rw [respellWords]
    split
    · exact ih (.inl (List.cons_ne_nil _ _))
    · simp

/-- Nor when its signs are. -/
theorem respellSigns_ne_nil (h : w ≠ []) : respellSigns w ≠ [] := by
  fun_cases respellSigns w <;> simp_all

/-- A text that is not empty has a spelling that is not empty. -/
theorem spelled_ne_nil (h : w ≠ []) : spelled w ≠ [] :=
  respellSigns_ne_nil (respellWords_ne_nil (.inr h))

/-! ### Ends of lines -/

/-- Spelling adds no line ends. -/
theorem mem_spelled_of_lineEnd (hc : c = '\n' ∨ c = '\r') (h : c ∈ spelled w) : c ∈ w := by
  refine (mem_spelled h).resolve_right ?_
  rcases hc with rfl | rfl <;> decide

/-- What a spelling begins with, if that is no character of words and signs. -/
theorem head?_spelled (hc : partsSpelling c = true) (hc' : c ∉ spellingChars)
    (h : (spelled w).head? = some c) : w.head? = some c := by
  have hmem {v : List Char} (hv : c ∈ spelled v) : c ∈ v := (mem_spelled hv).resolve_right hc'
  obtain ⟨ds, hds⟩ := List.head?_eq_some_iff.1 h
  obtain ⟨a, b, rfl, ha⟩ := List.eq_append_cons_of_mem (hmem (hds ▸ List.mem_cons_self))
  cases a with
  | nil => rfl
  | cons d a =>
    obtain ⟨e, es, hes⟩ := List.exists_cons_of_ne_nil (spelled_ne_nil (List.cons_ne_nil d a))
    rw [spelled_parted hc, hes] at h
    cases h
    exact absurd (hmem (hes ▸ List.mem_cons_self)) ha

/-- Spelling does not depend on how lines end. -/
theorem universalNewlines_spelled (w : List Char) :
    universalNewlines (spelled w) = spelled (universalNewlines w) := by
  by_cases hw : '\r' ∈ w
  · obtain ⟨a, b, rfl, ha⟩ := List.eq_append_cons_of_mem hw
    have ha' : '\r' ∉ spelled a := fun h => ha (mem_spelled_of_lineEnd (.inr rfl) h)
    have hne {cs : List Char} : ('\r' :: cs).head? ≠ some '\n' := by simp
    have ih := universalNewlines_spelled b
    rw [spelled_parted rfl, Text.universalNewlines_append hne, Text.universalNewlines_append hne,
      Text.universalNewlines_of_notMem ha, Text.universalNewlines_of_notMem ha']
    by_cases hb : b.head? = some '\n'
    · obtain ⟨b, rfl⟩ := List.head?_eq_some_iff.1 hb
      have hfeed (cs : List Char) : universalNewlines ('\r' :: '\n' :: cs) =
          universalNewlines ('\n' :: cs) := by
        rw [universalNewlines, Text.universalNewlines_cons (by decide)]
      have hspelled : spelled ('\n' :: b) = '\n' :: spelled b := spelled_parted rfl [] b
      rw [hspelled] at ih
      rw [hspelled, hfeed, hfeed, ih, Text.universalNewlines_cons (by decide), spelled_parted rfl]
      exact congrArg _ (spelled_parted rfl [] _)
    · have hb' : (spelled b).head? ≠ some '\n' := fun h =>
        hb (head?_spelled rfl (by decide) h)
      rw [Text.universalNewlines_carriageReturn hb, Text.universalNewlines_carriageReturn hb', ih,
        spelled_parted rfl]
  · have hw' : '\r' ∉ spelled w := fun h => hw (mem_spelled_of_lineEnd (.inr rfl) h)
    rw [Text.universalNewlines_of_notMem hw, Text.universalNewlines_of_notMem hw']
termination_by w.length

/-! ### What leads to a literal -/

namespace Lead

/-- Two places from which the same texts are read if a literal or the end of the text follows. -/
def Level (s s' : Lead) : Prop := s.Alike s' ∨ s.Ended ∧ s'.Ended

/-- Both places are inside a comment, or neither is. -/
theorem Level.comment_eq (h : s.Level s') : s.comment = s'.comment := by
  rcases h with h | ⟨h, h'⟩
  · exact h.comment_eq
  · rw [h.comment_eq, h'.comment_eq]

/-- Behind the end of a token a text between quotes has no prefix, and a token stands before it. -/
theorem Ended.quote_eq (h : s.Ended) (body : List Char) :
    s.quote body = (true, ⟨false, false, false, body⟩) := by
  rcases h with rfl | h
  · rfl
  · exact quote_spoiled h body

/-- A text between quotes is the same at both places. -/
theorem Level.quote_eq (h : s.Level s') (body : List Char) : s.quote body = s'.quote body := by
  rcases h with h | ⟨h, h'⟩
  · exact h.quote_eq body
  · rw [h.quote_eq, h'.quote_eq]

/-- In a comment nothing but the comment counts. -/
theorem Level.eq_of_comment (h : s.Level s') (hs : s.comment = true) : s = s' := by
  rcases h with (h | ⟨h, -⟩) | ⟨h, -⟩
  · exact h
  · rw [isSpoiled, hs] at h
    cases h
  · rw [h.comment_eq] at hs
    cases hs

/-- Likeness of places goes both ways. -/
theorem Alike.symm (h : s.Alike s') : s'.Alike s := h.imp Eq.symm And.symm

/-- Likeness of places can be chained. -/
theorem Alike.trans {s'' : Lead} (h : s.Alike s') (h' : s'.Alike s'') : s.Alike s'' := by
  rcases h with rfl | h
  · exact h'
  · rcases h' with rfl | h'
    · exact .inr h
    · exact .inr ⟨h.1, h'.2⟩

/-- The letters of prefixes are letters of words. -/
theorem isWord_of_isPrefixLetter (h : isPrefixLetter c = true) : Text.isWord c = true := by
  have hink := isInk_of_isPrefixLetter h
  rw [Text.isWord, if_pos (toNat_of_isInk hink).2]
  exact hink

/-- Behind the end of a token nothing depends on it, if no word goes on. -/
theorem Ended.next (h : s.Ended) (hc : Text.isWord c = false) :
    (s.next c).Alike ((fresh true).next c) := by
  rcases h with rfl | h
  · exact .inl rfl
  · obtain ⟨comment, run, parted⟩ := s
    simp only [isSpoiled, Bool.and_eq_true, Bool.not_eq_true'] at h
    obtain ⟨rfl, hrun⟩ := h
    have hne : run.isEmpty = false := by cases run <;> simp_all
    have hletter : isPrefixLetter c = false := by
      rw [Bool.eq_false_iff]
      intro hletter
      rw [isWord_of_isPrefixLetter hletter] at hc
      cases hc
    unfold Lead.next
    simp only [fresh, hne, Bool.not_false, Bool.or_true, Bool.true_or, Bool.false_eq_true, if_false]
    split
    · exact .inl rfl
    · split
      · exact .inl rfl
      · split
        · exact .inr (by simp [isSpoiled, hletter])
        · exact .inl rfl

/-- Behind a character that is part of no word. -/
theorem Level.next (h : s.Level s') (hc : Text.isWord c = false) :
    (s.next c).Alike (s'.next c) := by
  rcases h with h | ⟨h, h'⟩
  · exact h.next c
  · exact (h.next hc).trans (h'.next hc).symm

/-- A comment goes on to the end of its line. -/
theorem next_comment (hs : s.comment = true) (hc : c ≠ '\n') :
    s.next c = ⟨true, [], s.parted⟩ := by
  simp [next, hs, hc]

/-- A text without line feeds keeps a comment going. -/
theorem foldl_comment (hw : w ≠ []) (hfeed : '\n' ∉ w) (hs : s.comment = true) :
    w.foldl Lead.next s = ⟨true, [], s.parted⟩ := by
  induction w generalizing s with
  | nil => exact absurd rfl hw
  | cons c w ih =>
    rw [List.mem_cons, not_or] at hfeed
    rw [List.foldl_cons, next_comment hs (Ne.symm hfeed.1)]
    cases w with
    | nil => rfl
    | cons d w => exact ih (List.cons_ne_nil _ _) hfeed.2 rfl

/-- A character of a sign. -/
def isSign (c : Char) : Bool :=
  !(Text.isBlank c || c == '\\') && c != '#' && !extendsName c

/-- Behind the characters of signs a token has ended and no word goes on. -/
theorem foldl_signs (hw : w ≠ []) (hsigns : w.all isSign = true) (hs : s.comment = false) :
    w.foldl Lead.next s = fresh true := by
  induction w generalizing s with
  | nil => exact absurd rfl hw
  | cons c w ih =>
    simp only [List.all_cons, Bool.and_eq_true] at hsigns
    have hnext : s.next c = fresh true := by
      obtain ⟨hc, -⟩ := hsigns
      simp only [isSign, Bool.and_eq_true, Bool.not_eq_true', bne_iff_ne] at hc
      simp [next, hs, hc.1.1, hc.1.2, hc.2, fresh]
    rw [List.foldl_cons, hnext]
    cases w with
    | nil => rfl
    | cons d w => exact ih (List.cons_ne_nil _ _) hsigns.2 rfl

/-- Words lead to the same texts however they are spelled. -/
theorem Alike.respell (h : s.Alike s') (v : List Char) :
    (v.foldl Lead.next s).Level ((respell v).foldl Lead.next s') := by
  have hspellings : ∀ e ∈ wordSpellings,
      (e.1 ≠ [] ∧ '\n' ∉ e.1 ∧ e.1.all isInk = true ∧ e.1.any (fun c => !isPrefixLetter c) = true) ∧
        e.2 ≠ [] ∧ '\n' ∉ e.2 ∧ (e.2.all isSign = true ∨
          e.2.all isInk = true ∧ e.2.any (fun c => !isPrefixLetter c) = true) := by
    decide
  obtain hv | ⟨e, he, rfl, hv⟩ := respell_cases v
  · rw [hv]
    exact .inl (h.foldl v)
  · obtain ⟨⟨hne, hfeed, hink, hother⟩, hne', hfeed', hspelling⟩ := hspellings e he
    rw [hv]
    by_cases hs : s.comment = true
    · obtain rfl := Level.eq_of_comment (.inl h) hs
      exact .inl (.inl ((foldl_comment hne hfeed hs).trans (foldl_comment hne' hfeed' hs).symm))
    · rw [Bool.not_eq_true] at hs
      have hs' : s'.comment = false := h.comment_eq ▸ hs
      refine .inr ⟨.inr (isSpoiled_foldl hs hink hother), ?_⟩
      rcases hspelling with hsigns | ⟨hink', hother'⟩
      · exact .inl (foldl_signs hne' hsigns hs')
      · exact .inr (isSpoiled_foldl hs' hink' hother')

/-- The words of a text, the first of which may have begun with `run`, lead to the same texts
however they are spelled. -/
theorem Alike.respellWords (h : s.Alike s') (run w : List Char) :
    ((run.reverse ++ w).foldl Lead.next s).Level
      ((Expression.respellWords run w).foldl Lead.next s') := by
  induction w generalizing run s s' with
  | nil =>
    rw [List.append_nil, Expression.respellWords]
    exact h.respell _
  | cons c w ih =>
    rw [Expression.respellWords]
    split
    · have hrun := ih h (c :: run)
      rwa [List.reverse_cons, List.append_assoc, List.singleton_append] at hrun
    · next hc =>
      have hnext := (h.respell run.reverse).next (by simpa using hc)
      rw [List.foldl_append, List.foldl_append, List.foldl_cons, List.foldl_cons]
      exact ih hnext []

/-- A word between blanks. -/
theorem foldl_word (hv : v.all isInk = true) (hne : v ≠ []) (hs : s.comment = false) :
    (' ' :: (v ++ [' '])).foldl Lead.next s = fresh true := by
  have hblank : s.next ' ' = fresh (s.parted || !s.run.isEmpty) := by
    simp [next, hs, Text.isBlank, Text.isSpace, fresh]
  have hrun : v.reverse.isEmpty = false := by cases hr : v.reverse <;> simp_all
  rw [List.foldl_cons, List.foldl_append, hblank, foldl_next_ink rfl hv]
  simp [next, fresh, Text.isBlank, Text.isSpace, hrun]

/-- A sign leads to the same place as the word that it stands for. -/
theorem foldl_sign {u : List Char} (hu : u ∈ [['&', '&'], ['|', '|'], ['!']])
    (hv : v ∈ [['a', 'n', 'd'], ['o', 'r'], ['n', 'o', 't']]) (s : Lead) :
    (' ' :: (v ++ [' '])).foldl Lead.next s = u.foldl Lead.next s := by
  have hsigns : ∀ u ∈ [['&', '&'], ['|', '|'], ['!']],
      u ≠ [] ∧ '\n' ∉ u ∧ u.all isSign = true := by
    decide
  have hwords : ∀ v ∈ [['a', 'n', 'd'], ['o', 'r'], ['n', 'o', 't']],
      v ≠ [] ∧ '\n' ∉ ' ' :: (v ++ [' ']) ∧ v.all isInk = true := by
    decide
  obtain ⟨hune, hufeed, husigns⟩ := hsigns u hu
  obtain ⟨hvne, hvfeed, hvink⟩ := hwords v hv
  by_cases hs : s.comment = true
  · rw [foldl_comment (List.cons_ne_nil _ _) hvfeed hs, foldl_comment hune hufeed hs]
  · rw [Bool.not_eq_true] at hs
    rw [foldl_word hvink hvne hs, foldl_signs hune husigns hs]

/-- Signs lead to the very same place however they are spelled. -/
theorem foldl_respellSigns (s : Lead) (w : List Char) :
    (respellSigns w).foldl Lead.next s = w.foldl Lead.next s := by
  fun_induction respellSigns w generalizing s with
  | case1 => rfl
  | case2 cs ih =>
    rw [List.foldl_append, ih]
    exact congrArg (cs.foldl Lead.next)
      (foldl_sign (u := ['&', '&']) (v := ['a', 'n', 'd']) (by simp) (by simp) s)
  | case3 cs ih =>
    rw [List.foldl_append, ih]
    exact congrArg (cs.foldl Lead.next)
      (foldl_sign (u := ['|', '|']) (v := ['o', 'r']) (by simp) (by simp) s)
  | case4 => exact foldl_sign (u := ['!']) (v := ['n', 'o', 't']) (by simp) (by simp) s
  | case5 cs ih => exact ih _
  | case6 c cs _ ih =>
    rw [List.foldl_append, ih]
    exact congrArg ((c :: cs).foldl Lead.next)
      (foldl_sign (u := ['!']) (v := ['n', 'o', 't']) (by simp) (by simp) s)
  | case7 c cs _ _ _ _ _ ih => exact ih _

/-- **Spelling leads to the same texts**, if a literal or the end of the text follows. -/
theorem level_spelled (s : Lead) (w : List Char) :
    (w.foldl Lead.next s).Level ((spelled w).foldl Lead.next s) := by
  rw [spelled, foldl_respellSigns]
  exact Alike.respellWords (.inl rfl) [] w

end Lead

end Expression
end WorkflowKit
