/-
# How a text is brought into normal form

A quote that opens a text for the reader of tokens opens a literal for the normal form, and both
end it at the same place, unless a line end behind a backslash is part of it
(`isBody_of_untilQuote?`).  So a literal is left as it is (`normalFrom_literal`).

What stands between the literals may be cut at blanks: no word and no sign holds one, so that each
piece is respelled on its own (`normalFrom_blank`).
-/

import WorkflowKit.Expression.Normal
import WorkflowKit.Expression.Token.Quotation

namespace WorkflowKit
namespace Expression

/-! ### Literals -/

/-- The end of a line behind a backslash. -/
def continuation : List Char := ['\\', '\n']

/-- If no line of a text goes on behind a backslash, none of its rest does. -/
theorem not_continuation_tail {c : Char} {cs : List Char} (h : ¬ continuation <:+: c :: cs) :
    ¬ continuation <:+: cs :=
  fun hcs => h (hcs.trans (List.suffix_cons c cs).isInfix)

/-- What may stand between the two quotes of a literal. -/
inductive IsBody (q : Char) : List Char → Prop
  /-- Nothing. -/
  | nil : IsBody q []
  /-- A character. -/
  | char {c : Char} {cs : List Char} (quote : c ≠ q) (backslash : c ≠ '\\') (rest : IsBody q cs) :
    IsBody q (c :: cs)
  /-- A character behind a backslash, unless it ends a line. -/
  | escape {c : Char} {cs : List Char} (lineFeed : c ≠ '\n') (rest : IsBody q cs) :
    IsBody q ('\\' :: c :: cs)

/-- A quote right behind the opening one ends the literal. -/
theorem closing?_quote (q : Char) (cs : List Char) : closing? q (q :: cs) = some 1 := by
  cases cs <;> simp [closing?]

/-- A literal ends behind its body. -/
theorem IsBody.closing?_eq {q : Char} {body : List Char} (h : IsBody q body)
    (hq : isQuote q = true) (rest : List Char) :
    closing? q (body ++ q :: rest) = some (body.length + 1) := by
  induction h with
  | nil => exact closing?_quote q rest
  | @char c cs quote backslash _ ih =>
    have hcons : closing? q (c :: (cs ++ q :: rest)) =
        (closing? q (cs ++ q :: rest)).map (· + 1) := by
      cases cs <;> simp [closing?, quote, backslash]
    rw [List.cons_append, hcons, ih]
    rfl
  | escape lineFeed _ ih =>
    have hbackslash : '\\' ≠ q := by
      rintro rfl
      cases hq
    rw [List.cons_append, List.cons_append, closing?, if_neg hbackslash, if_pos rfl,
      if_neg lineFeed, ih]
    rfl

/-- **A text between quotes is a literal** unless it goes on behind the end of a line. -/
theorem isBody_of_untilQuote? {q : Char} {cs body rest : List Char}
    (h : untilQuote? q cs = some (body, rest)) (hbody : ¬ continuation <:+: body) :
    IsBody q body ∧ cs = body ++ q :: rest := by
  fun_induction untilQuote? q cs generalizing body with
  | case1 | case3 | case5 => cases h
  | case2 | case4 =>
    cases h
    exact ⟨.nil, rfl⟩
  | case6 d cs hq hn ih =>
    obtain ⟨⟨b, r⟩, hb, h⟩ := Option.map_eq_some_iff.1 h
    cases h
    have hd : d ≠ '\n' := fun hd => hbody (by rw [hd]; exact (List.prefix_append [_, _] b).isInfix)
    obtain ⟨hrest, rfl⟩ := ih hb (not_continuation_tail (not_continuation_tail hbody))
    exact ⟨.escape hd hrest, rfl⟩
  | case7 c d cs hq hn hc ih =>
    obtain ⟨⟨b, r⟩, hb, h⟩ := Option.map_eq_some_iff.1 h
    cases h
    obtain ⟨hrest, heq⟩ := ih hb (not_continuation_tail hbody)
    exact ⟨.char hq hc hrest, by rw [heq]; rfl⟩

/-! ### Segments -/

/-- The normal form of a text, before its blanks are dropped. -/
def normalFrom (cs : List Char) : List Char := (segments [] cs).flatMap Segment.normal

/-- Words and signs in their normal spelling. -/
def spelled (cs : List Char) : List Char := respellSigns (respellWords [] cs)

@[simp] theorem normal_plain (cs : List Char) : (Segment.plain cs).normal = spelled cs :=
  rfl

@[simp] theorem normal_literal (cs : List Char) : (Segment.literal cs).normal = cs :=
  rfl

/-- Whether no literal begins in a text. -/
def isPlain (cs : List Char) : Bool := cs.all fun c => !isQuote c

variable {w v cs : List Char}

/-- A plain text goes before the next literal. -/
theorem segments_plain (before : List Char) (hw : isPlain w = true) :
    segments before (w ++ cs) = segments (w.reverse ++ before) cs := by
  induction w generalizing before with
  | nil => rfl
  | cons c w ih =>
    obtain ⟨hc, hw⟩ : isQuote c = false ∧ isPlain w = true := by simpa [isPlain] using hw
    have hnone : literal? c (w ++ cs) = none := by simp [literal?, hc]
    rw [List.cons_append, segments, hnone, List.reverse_cons, List.append_assoc]
    exact ih _ hw

/-- A plain text is one segment. -/
theorem segments_of_plain (hw : isPlain w = true) : segments [] w = [.plain w] := by
  have h : segments [] (w ++ []) = segments (w.reverse ++ []) [] := segments_plain [] hw
  rwa [List.append_nil, List.append_nil, segments, List.reverse_reverse] at h

/-- The normal form of a plain text is its spelling. -/
theorem normalFrom_of_plain (hw : isPlain w = true) : normalFrom w = spelled w := by
  simp [normalFrom, segments_of_plain hw]

/-- A literal behind a plain text is a segment. -/
theorem segments_body {q : Char} {body rest : List Char} (hw : isPlain w = true)
    (hq : isQuote q = true) (hbody : IsBody q body) :
    segments [] (w ++ q :: (body ++ q :: rest)) =
      .plain w :: .literal (q :: (body ++ [q])) :: segments [] rest := by
  have hlength : (body ++ [q]).length = body.length + 1 := by simp
  have hsplit : body ++ q :: rest = (body ++ [q]) ++ rest := by simp
  rw [segments_plain [] hw, segments, literal?, if_pos hq, hbody.closing?_eq hq]
  dsimp only
  rw [hsplit, ← hlength, List.take_left, List.drop_left, List.append_nil, List.reverse_reverse]

/-- A literal behind a plain text. -/
theorem normalFrom_body {q : Char} {body rest : List Char} (hw : isPlain w = true)
    (hq : isQuote q = true) (hbody : IsBody q body) :
    normalFrom (w ++ q :: (body ++ q :: rest)) =
      spelled w ++ q :: (body ++ q :: normalFrom rest) := by
  rw [normalFrom, segments_body hw hq hbody]
  simp [normalFrom]

/-- **A literal is left as it is.** A plain text before it is spelled anew, and the normal form goes
on behind its closing quote, which is where the reader of tokens finds it too. -/
theorem normalFrom_literal {q : Char} {body rest : List Char} (hw : isPlain w = true)
    (hv : spelled w = v) (hq : isQuote q = true) (h : untilQuote? q cs = some (body, rest))
    (hbody : ¬ continuation <:+: body) :
    normalFrom (w ++ q :: cs) = v ++ (q :: body ++ [q]) ++ normalFrom rest := by
  obtain ⟨hbody, rfl⟩ := isBody_of_untilQuote? h hbody
  rw [normalFrom_body hw hq hbody, hv]
  simp

/-! ### Blanks -/

/-- Whether a character is part of no word and of no sign. -/
def partsSpelling (c : Char) : Bool :=
  !Text.isWord c && c != '&' && c != '|' && c != '!' && c != '='

/-- Words are spelled separately before and behind a character that is part of none. -/
theorem respellWords_parted {c : Char} (hc : Text.isWord c = false) (run a b : List Char) :
    respellWords run (a ++ c :: b) = respellWords run a ++ c :: respellWords [] b := by
  induction a generalizing run with
  | nil => simp [respellWords, hc]
  | cons d a ih =>
    rw [List.cons_append, respellWords, respellWords]
    split
    · exact ih _
    · rw [ih, List.append_assoc, List.cons_append]

/-- Signs are spelled separately before and behind a character that is part of none. -/
theorem respellSigns_parted {d : Char} (hd : partsSpelling d = true) (a b : List Char) :
    respellSigns (a ++ d :: b) = respellSigns a ++ d :: respellSigns b := by
  simp only [partsSpelling, Bool.and_eq_true, bne_iff_ne] at hd
  obtain ⟨⟨⟨⟨-, hand⟩, hor⟩, hnot⟩, heq⟩ := hd
  have hcons : respellSigns (d :: b) = d :: respellSigns b := by
    rw [respellSigns]
    · exact fun _ h _ => hand h
    · exact fun _ h _ => hor h
    · exact fun h _ => hnot h
    · exact fun _ h _ => hnot h
    · exact fun _ _ h _ => hnot h
  fun_induction respellSigns a with
  | case1 => exact hcons
  | case2 cs ih => simp [respellSigns, ih]
  | case3 cs ih => simp [respellSigns, ih]
  | case4 => simp [respellSigns, hcons]
  | case5 cs ih => simp [respellSigns, ih]
  | case6 c cs hc ih =>
    rw [List.cons_append, List.cons_append, respellSigns, ← List.cons_append, ih,
      List.append_assoc]
    exact hc
  -- No sign begins here, and none comes to begin here with `d` as its second character.
  | case7 c cs h₁ h₂ h₃ h₄ h₅ ih =>
    have hc : c ≠ '!' := by
      rintro rfl
      cases cs with
      | nil => exact h₃ rfl rfl
      | cons d cs => exact h₅ d cs rfl rfl
    rw [List.cons_append, respellSigns, ih, List.cons_append]
    · rintro cs' rfl heq
      cases cs with
      | nil => simp_all
      | cons d cs => exact h₁ cs rfl (by simp_all)
    · rintro cs' rfl heq
      cases cs with
      | nil => simp_all
      | cons d cs => exact h₂ cs rfl (by simp_all)
    · exact fun h _ => hc h
    · exact fun _ h _ => hc h
    · exact fun _ _ h _ => hc h

/-- What stands before and behind such a character is spelled on its own. -/
theorem spelled_parted {c : Char} (hc : partsSpelling c = true) (a b : List Char) :
    spelled (a ++ c :: b) = spelled a ++ c :: spelled b := by
  have hword : Text.isWord c = false := by
    simp only [partsSpelling, Bool.and_eq_true, Bool.not_eq_true'] at hc
    exact hc.1.1.1.1
  rw [spelled, respellWords_parted hword, respellSigns_parted hc, spelled, spelled]

/-- A blank parts words and signs. -/
theorem spelled_blank (a b : List Char) :
    spelled (a ++ ' ' :: b) = spelled a ++ ' ' :: spelled b :=
  spelled_parted rfl a b

/-- Characters in front of a text belong to its first segment. -/
theorem exists_segments (cs : List Char) :
    ∃ p ss, ∀ before, segments before cs = .plain (before.reverse ++ p) :: ss := by
  induction cs with
  | nil => exact ⟨[], [], fun before => by rw [segments, List.append_nil]⟩
  | cons c cs ih =>
    cases hc : literal? c cs with
    | none =>
      obtain ⟨p, ss, hss⟩ := ih
      refine ⟨c :: p, ss, fun before => ?_⟩
      rw [segments, hc]
      dsimp only
      rw [hss, List.reverse_cons, List.append_assoc, List.singleton_append]
    | some n =>
      refine ⟨[], .literal (c :: cs.take n) :: segments [] (cs.drop n), fun before => ?_⟩
      rw [segments, hc, List.append_nil]

/-- A plain text before a character that begins no literal and is no part of a spelling. -/
theorem normalFrom_parted {c : Char} (hw : isPlain w = true) (hc : partsSpelling c = true)
    (hnone : literal? c cs = none) :
    normalFrom (w ++ c :: cs) = spelled w ++ c :: normalFrom cs := by
  obtain ⟨p, ss, hss⟩ := exists_segments cs
  rw [normalFrom, segments_plain [] hw, segments, hnone]
  dsimp only
  simp [normalFrom, hss, spelled_parted hc]

/-- A plain text before a blank. -/
theorem normalFrom_blank (hw : isPlain w = true) (hv : spelled w = v) :
    normalFrom (w ++ ' ' :: cs) = v ++ ' ' :: normalFrom cs := by
  rw [normalFrom_parted hw rfl rfl, hv]

end Expression
end WorkflowKit
