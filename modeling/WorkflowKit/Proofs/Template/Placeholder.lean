/-
# Which placeholders are found

A placeholder for a target may be written with any blanks around the target (`Target.IsWritten`).
Reading a text finds it wherever it stands (`mem_references_iff`), unless braces that begin before
it take it in: two opening braces that no closing brace follows up to the placeholder.  They may
share their second brace with the first one of the placeholder, as in `{{{property.a}}`, which holds
no reference at all (`not_forall_mem_references`).

`placeholder?_eq_some` says what reading takes at a place.  From it the references that begin at the
front of a text and those behind it are told apart (`IsFound`), and the statement follows along the
text.
-/

import Mathlib
import WorkflowKit.Proofs.Text.Blank
import WorkflowKit.Proofs.Value.Text
import WorkflowKit.Template.Placeholder

namespace WorkflowKit
namespace Template

variable {t : Target} {ps qs body before rest full : List CodePoint} {cs : List Char}

/-- A brace that opens. -/
abbrev opening : CodePoint := .char '\x7b'

/-- A brace that closes. -/
abbrev closing : CodePoint := .char '\x7d'

/-- Code points between two braces on either side. -/
def braced (body : List CodePoint) : List CodePoint :=
  opening :: opening :: (body ++ [closing, closing])

/-- The characters of a target. -/
def Target.chars (t : Target) : List Char := t.root.text.toList ++ '.' :: t.key.toList

/-- How a placeholder for a target may be written. -/
def Target.IsWritten (t : Target) (ps : List CodePoint) : Prop :=
  isKey t.key.toList = true ∧ ∃ lead trail : List Char,
    (∀ c ∈ lead, Text.isBlank c = true) ∧ (∀ c ∈ trail, Text.isBlank c = true) ∧
      ps = braced ((lead ++ t.chars ++ trail).map .char)

/-- No two opening braces that begin before a place, the second one perhaps at the place, are left
without a closing brace up to it. -/
def IsClear (before : List CodePoint) : Prop :=
  ∀ us vs, before ++ [opening] = us ++ opening :: opening :: vs → closing ∈ vs

/-! ### What is taken at a place -/

theorem opening_ne_closing : opening ≠ closing := by decide

theorem braced_inj : braced ps = braced qs ↔ ps = qs := by
  simp only [braced, List.cons.injEq, true_and, List.append_left_inj]

/-- Reading takes the code points up to the first closing brace, if there is one before it and
another behind it. -/
theorem placeholder?_eq_some : placeholder? ps = some full ↔
    ∃ body rest, body ≠ [] ∧ closing ∉ body ∧ full = braced body ∧ ps = full ++ rest := by
  constructor
  · intro h
    unfold placeholder? at h
    split at h
    · next tail =>
      dsimp only at h
      split at h
      · cases h
      · next hne =>
        -- The text up to the first closing brace is the body, whatever follows it.
        have htail := (List.takeWhile_append_dropWhile (p := (· ≠ closing)) (l := tail)).symm
        have hdrop : tail.drop (tail.takeWhile (· ≠ closing)).length =
            tail.dropWhile (· ≠ closing) := by
          nth_rewrite 2 [htail]
          exact List.drop_left
        rw [hdrop] at h
        split at h
        · next rest hrest =>
          obtain rfl := Option.some.inj h
          refine ⟨_, rest, by simpa using hne, fun hmem => ?_, rfl, ?_⟩
          · simpa using List.mem_takeWhile_imp hmem
          · nth_rewrite 1 [htail]
            rw [hrest]
            simp
        · cases h
    · cases h
  · rintro ⟨body, rest, hne, hclosing, rfl, rfl⟩
    have hbody : ∀ p ∈ body, decide (p ≠ closing) = true := fun p hp =>
      decide_eq_true fun hpc => hclosing (hpc ▸ hp)
    have htake : (body ++ closing :: closing :: rest).takeWhile (· ≠ closing) = body := by
      rw [List.takeWhile_append_of_pos hbody]
      simp
    have hbraced : braced body ++ rest =
        opening :: opening :: (body ++ closing :: closing :: rest) := by
      simp [braced]
    rw [hbraced, placeholder?, htake, if_neg (by simpa using hne), List.drop_left]
    rfl

/-! ### What a placeholder refers to -/

theorem strip_of_ink {lead trail : List Char} (hlead : ∀ c ∈ lead, Text.isBlank c = true)
    (htrail : ∀ c ∈ trail, Text.isBlank c = true) (hcs : ∀ c ∈ cs, Text.isBlank c = false) :
    Text.strip (lead ++ cs ++ trail) = cs :=
  Text.strip_between hlead htrail (fun c hc => hcs c (List.mem_of_mem_head? hc))
    fun c hc => hcs c (List.mem_of_mem_getLast? hc)

theorem afterRoot?_eq_some {r : Root} {ds : List Char} :
    afterRoot? r cs = some ds ↔ cs = r.text.toList ++ '.' :: ds := by
  rw [afterRoot?]
  constructor
  · intro h
    split at h
    · next hprefix =>
      obtain ⟨es, rfl⟩ := List.isPrefixOf_iff_prefix.1 hprefix
      rw [List.drop_left] at h
      rw [← Option.some.inj h, List.append_assoc]
      rfl
    · cases h
  · rintro rfl
    have hsplit : r.text.toList ++ '.' :: ds = (r.text.toList ++ ['.']) ++ ds := by simp
    rw [hsplit, if_pos (List.isPrefixOf_iff_prefix.2 (List.prefix_append ..)), List.drop_left]

/-- A text refers to a target if it is the text of the target. -/
theorem target?_eq_some : target? cs = some t ↔ isKey t.key.toList = true ∧ cs = t.chars := by
  have hof (r : Root) : ((afterRoot? r cs).bind fun k =>
      if isKey k then some (⟨r, String.ofList k⟩ : Target) else none) = some t ↔
        isKey t.key.toList = true ∧ cs = t.chars ∧ t.root = r := by
    constructor
    · intro h
      obtain ⟨k, hk, h⟩ := Option.bind_eq_some_iff.1 h
      split at h
      · next hkey =>
        obtain rfl := Option.some.inj h
        rw [String.toList_ofList]
        refine ⟨hkey, ?_, rfl⟩
        rw [Target.chars, String.toList_ofList, afterRoot?_eq_some.1 hk]
      · cases h
    · rintro ⟨hkey, rfl, rfl⟩
      have hroot : afterRoot? t.root t.chars = some t.key.toList := afterRoot?_eq_some.2 rfl
      rw [hroot, Option.bind_some, if_pos hkey, String.ofList_toList]
  rw [target?]
  rw [Option.or_eq_some_iff, hof, hof]
  constructor
  · rintro (⟨hkey, hcs, -⟩ | ⟨-, hkey, hcs, -⟩) <;> exact ⟨hkey, hcs⟩
  · rintro ⟨hkey, rfl⟩
    obtain ⟨_ | _, k⟩ := t
    · exact .inl ⟨hkey, rfl, rfl⟩
    · refine .inr ⟨?_, hkey, rfl, rfl⟩
      cases hroot : afterRoot? .property (Target.chars ⟨.env, k⟩) with
      | none =>
        beta_reduce
        rw [hroot]
        rfl
      | some ds => exact absurd (afterRoot?_eq_some.1 hroot) (by simp [Target.chars, Root.text])

/-- A character of a target is a letter, a digit, an underscore, a point or a hyphen. -/
theorem continuesKey_of_mem_chars {c : Char} (hkey : isKey t.key.toList = true)
    (hc : c ∈ t.chars) : continuesKey c = true := by
  have hroots : ∀ r : Root, ∀ c ∈ r.text.toList ++ ['.'], continuesKey c = true := by
    intro r
    cases r <;> simp [Root.text, continuesKey, startsKey]
  rw [Target.chars, List.append_cons, List.mem_append] at hc
  rcases hc with hc | hc
  · exact hroots t.root c hc
  · cases hk : t.key.toList with
    | nil => rw [hk] at hc; cases hc
    | cons d ds =>
      rw [hk, isKey, Bool.and_eq_true, List.all_eq_true] at hkey
      rw [hk] at hc
      rcases List.mem_cons.1 hc with rfl | hc
      · rw [continuesKey, hkey.1, Bool.true_or, Bool.true_or]
      · exact hkey.2 c hc

/-- The characters of keys are neither blanks nor braces. -/
theorem ne_of_continuesKey {c : Char} (h : continuesKey c = true) :
    Text.isBlank c = false ∧ CodePoint.char c ≠ closing := by
  have hbounds : 0x2d ≤ c.toNat ∧ c.toNat < 0x7b := by
    simp only [continuesKey, startsKey, Char.isAlphanum, Char.isAlpha, Char.isUpper, Char.isLower,
      Char.isDigit, Bool.or_eq_true, Bool.and_eq_true, decide_eq_true_eq, beq_iff_eq, ge_iff_le,
      UInt32.le_iff_toNat_le] at h
    have hn : c.val.toNat = c.toNat := rfl
    rcases h with (((((h | h) | h) | rfl) | rfl) | rfl)
    · simp at h; omega
    · simp at h; omega
    · simp at h; omega
    all_goals decide
  refine ⟨?_, ?_⟩
  · simp only [Text.isBlank, Text.isSpace, Bool.or_eq_false_iff, Bool.and_eq_false_iff,
      decide_eq_false_iff_not, beq_eq_false_iff_ne]
    omega
  · intro hc
    obtain rfl := CodePoint.char.inj hc
    exact absurd hbounds.2 (by decide)

theorem ne_of_isBlank {c : Char} (h : Text.isBlank c = true) : CodePoint.char c ≠ closing := by
  intro hc
  obtain rfl := CodePoint.char.inj hc
  cases h

/-- **What a placeholder refers to.** -/
theorem placeholderTarget?_eq_some :
    placeholderTarget? (braced body) = some t ↔ t.IsWritten (braced body) := by
  have hbody : ((braced body).drop 2).dropLast.dropLast = body := by
    have hsplit : (braced body).drop 2 = body ++ [closing] ++ [closing] := by simp [braced]
    rw [hsplit, List.dropLast_concat, List.dropLast_concat]
  rw [placeholderTarget?, hbody]
  constructor
  · intro h
    obtain ⟨cs, hcs, h⟩ := Option.bind_eq_some_iff.1 h
    obtain ⟨hkey, htarget⟩ := target?_eq_some.1 h
    obtain ⟨lead, trail, hlead, htrail, heq⟩ := Text.exists_eq_strip cs
    refine ⟨hkey, lead, trail, hlead, htrail, ?_⟩
    have hpoints : body = cs.map .char :=
      congrArg Text.points (Text.chars?_eq_some (t := ⟨body⟩) hcs)
    rw [hpoints, ← htarget, ← heq]
  · rintro ⟨hkey, lead, trail, hlead, htrail, heq⟩
    have hpoints : body = (lead ++ t.chars ++ trail).map .char := braced_inj.1 heq
    have hcs := Text.chars?_ofString (String.ofList (lead ++ t.chars ++ trail))
    rw [Text.ofString, String.toList_ofList] at hcs
    have hcs : body.mapM CodePoint.char? = some (lead ++ t.chars ++ trail) := hpoints ▸ hcs
    have hink : ∀ c ∈ t.chars, Text.isBlank c = false := fun c hc =>
      (ne_of_continuesKey (continuesKey_of_mem_chars hkey hc)).1
    rw [hcs, Option.bind_some, strip_of_ink hlead htrail hink]
    exact target?_eq_some.2 ⟨hkey, rfl⟩

/-- A written placeholder stands between braces and holds no closing brace. -/
theorem Target.IsWritten.exists_braced (h : t.IsWritten ps) :
    ∃ body, body ≠ [] ∧ closing ∉ body ∧ ps = braced body := by
  obtain ⟨hkey, lead, trail, hlead, htrail, rfl⟩ := h
  refine ⟨_, by simp [Target.chars], ?_, rfl⟩
  intro hmem
  obtain ⟨c, hc, hclosing⟩ := List.mem_map.1 hmem
  rw [List.mem_append, List.mem_append] at hc
  rcases hc with (hc | hc) | hc
  · exact ne_of_isBlank (hlead c hc) hclosing
  · exact (ne_of_continuesKey (continuesKey_of_mem_chars hkey hc)).2 hclosing
  · exact ne_of_isBlank (htrail c hc) hclosing

/-! ### What is found along a text -/

/-- A reference that is written in a text, whose first code point has the number `pos`, and that
braces before it do not take in. -/
def IsFound (pos : Nat) (ps : List CodePoint) (r : Reference) : Prop :=
  r.target.IsWritten r.text.points ∧ r.stop = r.start + r.text.length ∧
    ∃ before after, ps = before ++ r.text.points ++ after ∧ r.start = pos + before.length ∧
      IsClear before

variable {p : CodePoint} {pos : Nat} {r : Reference}

theorem isClear_nil : IsClear [] := by
  intro us vs h
  have := congrArg List.length h
  simp at this
  omega

theorem IsClear.of_append (h : IsClear (ps ++ qs)) : IsClear qs := by
  intro us vs hqs
  exact h (ps ++ us) vs (by rw [List.append_assoc, hqs, List.append_assoc])

/-- Behind a closing brace everything begins anew. -/
theorem IsClear.append_closing (h : IsClear qs) (ps : List CodePoint) :
    IsClear (ps ++ closing :: qs) := by
  intro us vs heq
  rw [List.append_assoc, List.append_eq_append_iff] at heq
  obtain ⟨ws, rfl, hws⟩ | ⟨ws, rfl, hws⟩ := heq
  · cases ws with
    | nil => exact absurd (List.cons.inj hws).1.symm opening_ne_closing
    | cons w ws => exact h ws vs (List.cons.inj hws).2
  · have hmem : closing ∈ opening :: opening :: vs := by simp [hws]
    simpa [opening_ne_closing.symm] using hmem

theorem braced_append (body ps : List CodePoint) :
    braced body ++ ps = (opening :: opening :: (body ++ [closing])) ++ closing :: ps := by
  simp [braced]

/-- Where reading takes nothing, no reference begins, and nothing is taken in from here. -/
theorem isFound_cons (h : placeholder? (p :: ps) = none) :
    IsFound pos (p :: ps) r ↔ IsFound (pos + 1) ps r := by
  have hnone : ∀ body rest, body ≠ [] → closing ∉ body → p :: ps ≠ braced body ++ rest := by
    intro body rest hne hclosing heq
    rw [placeholder?_eq_some.2 ⟨body, rest, hne, hclosing, rfl, heq⟩] at h
    cases h
  constructor
  · rintro ⟨hwritten, hstop, before, after, heq, hstart, hclear⟩
    obtain ⟨body, hne, hclosing, hbody⟩ := hwritten.exists_braced
    cases before with
    | nil => exact absurd (hbody ▸ heq) (hnone body after hne hclosing)
    | cons q before =>
      refine ⟨hwritten, hstop, before, after, (List.cons.inj heq).2, ?_,
        IsClear.of_append (show IsClear ([q] ++ _) from hclear)⟩
      rw [hstart, List.length_cons, Nat.add_right_comm, Nat.add_assoc]
  · rintro ⟨hwritten, hstop, before, after, rfl, hstart, hclear⟩
    obtain ⟨body, hne, hclosing, hbody⟩ := hwritten.exists_braced
    refine ⟨hwritten, hstop, p :: before, after, rfl, ?_, ?_⟩
    · rw [hstart, List.length_cons, Nat.add_right_comm, Nat.add_assoc]
    · rintro (_ | ⟨u, us⟩) vs heq
      · obtain ⟨rfl, hvs⟩ := List.cons.inj heq
        have hvs : before ++ [opening] = opening :: vs := hvs
        by_contra hmem
        -- With the first brace of the placeholder the two braces make a longer placeholder.
        refine hnone (vs ++ opening :: body) after (by simp) ?_ ?_
        · rw [List.mem_append, List.mem_cons, not_or, not_or]
          exact ⟨hmem, opening_ne_closing.symm, hclosing⟩
        · have hsplit : before ++ braced body = (before ++ [opening]) ++ opening :: (body ++
              [closing, closing]) := by simp [braced]
          rw [hbody, hsplit, hvs]
          simp [braced]
      · exact hclear us vs (List.cons.inj heq).2

/-- A place inside of a placeholder is not clear. -/
theorem not_isClear_of_braced (hclosing : closing ∉ body)
    (h : braced body = p :: before ++ opening :: rest) : ¬ IsClear (p :: before) := by
  intro hclear
  simp only [braced, List.cons_append, List.cons.injEq] at h
  obtain ⟨rfl, h⟩ := h
  cases before with
  | nil => exact absurd (hclear [] [] rfl) List.not_mem_nil
  | cons q before =>
    simp only [List.cons_append, List.cons.injEq] at h
    obtain ⟨rfl, h⟩ := h
    have hmem : closing ∈ before := by simpa using hclear [] (before ++ [opening]) rfl
    rw [List.append_eq_append_iff] at h
    obtain ⟨ws, rfl, hws⟩ | ⟨ws, rfl, -⟩ := h
    · have hopening : opening ∈ [closing, closing] := by simp [hws]
      exact absurd hopening (by decide)
    · exact hclosing (List.mem_append_left _ hmem)

/-- A placeholder that is taken is the only one that begins before its end. -/
theorem isFound_append (hne : body ≠ []) (hclosing : closing ∉ body) :
    IsFound pos (braced body ++ rest) r ↔
      (r.text.points = braced body ∧ r.target.IsWritten (braced body) ∧ r.start = pos ∧
        r.stop = pos + (braced body).length) ∨ IsFound (pos + (braced body).length) rest r := by
  constructor
  · rintro ⟨hwritten, hstop, before, after, heq, hstart, hclear⟩
    rw [List.append_assoc, List.append_eq_append_iff] at heq
    obtain ⟨ws, rfl, rfl⟩ | ⟨ws, hws, hrest⟩ := heq
    · refine .inr ⟨hwritten, hstop, ws, after, by rw [List.append_assoc], ?_, hclear.of_append⟩
      rw [hstart, List.length_append, Nat.add_assoc]
    · obtain ⟨inner, hne', hclosing', hinner⟩ := hwritten.exists_braced
      cases before with
      | nil =>
        have hfull := placeholder?_eq_some.2 ⟨inner, after, hne', hclosing', hinner, rfl⟩
        have hws : braced body = ws := hws
        rw [hrest, ← hws, placeholder?_eq_some.2 ⟨body, rest, hne, hclosing, rfl, rfl⟩] at hfull
        have htext := (Option.some.inj hfull).symm
        exact .inl ⟨htext, htext ▸ hwritten, hstart, by rw [hstop, hstart, Text.length, htext]; rfl⟩
      | cons p before =>
        cases ws with
        | nil =>
          rw [List.append_nil] at hws
          rw [← hws] at hstart
          exact .inr ⟨hwritten, hstop, [], after, hrest.symm, hstart, isClear_nil⟩
        | cons q ws =>
          rw [hinner] at hrest
          obtain rfl : opening = q := (List.cons.inj hrest).1
          exact absurd hclear (not_isClear_of_braced hclosing hws)
  · rintro (⟨htext, hwritten, hstart, hstop⟩ |
      ⟨hwritten, hstop, before, after, rfl, hstart, hclear⟩)
    · refine ⟨htext ▸ hwritten, ?_, [], rest, by rw [htext]; rfl, hstart, isClear_nil⟩
      rw [hstop, hstart, Text.length, htext]
    · refine ⟨hwritten, hstop, braced body ++ before, after, by simp, ?_, ?_⟩
      · rw [hstart, List.length_append, Nat.add_assoc]
      · rw [braced_append]
        exact hclear.append_closing _

theorem piecesFrom_eq_drop (n : Nat) (ps : List CodePoint) :
    piecesFrom n ps = piecesFrom 0 (ps.drop n) := by
  induction ps generalizing n with
  | nil => rw [List.drop_nil, piecesFrom, piecesFrom]
  | cons p ps ih =>
    cases n with
    | zero => rfl
    | succ n => rw [piecesFrom, ih, List.drop_succ_cons]

theorem piecesFrom_braced (hne : body ≠ []) (hclosing : closing ∉ body) :
    piecesFrom 0 (braced body ++ rest) =
      (match placeholderTarget? (braced body) with
        | some t => Piece.reference (braced body) t
        | none => .plain (braced body)) :: piecesFrom 0 rest := by
  have htaken := placeholder?_eq_some.2 ⟨body, rest, hne, hclosing, rfl, rfl⟩
  have hdrop : (opening :: (body ++ [closing, closing]) ++ rest).drop ((braced body).length - 1) =
      rest := List.drop_left
  rw [braced, List.cons_append] at htaken ⊢
  rw [piecesFrom, htaken]
  dsimp only
  rw [piecesFrom_eq_drop]
  exact congrArg (_ :: piecesFrom 0 ·) hdrop

/-- Reading goes along a text in steps of one code point and steps of one placeholder. -/
theorem scan_induction {motive : List CodePoint → Prop} (nil : motive [])
    (skip : ∀ p ps, placeholder? (p :: ps) = none → motive ps → motive (p :: ps))
    (take : ∀ body rest, body ≠ [] → closing ∉ body → motive rest →
      motive (braced body ++ rest)) (ps : List CodePoint) : motive ps := by
  induction hn : ps.length using Nat.strongRecOn generalizing ps with
  | ind n ih =>
    subst hn
    cases ps with
    | nil => exact nil
    | cons p ps =>
      cases hp : placeholder? (p :: ps) with
      | none => exact skip p ps hp (ih ps.length (Nat.lt_succ_self _) ps rfl)
      | some full =>
        obtain ⟨body, rest, hne, hclosing, rfl, heq⟩ := placeholder?_eq_some.1 hp
        have hlen : rest.length < (p :: ps).length := by
          rw [heq, List.length_append, braced, List.length_cons]
          omega
        rw [heq]
        exact take body rest hne hclosing (ih rest.length hlen rest rfl)

/-- The references among the parts of a text are those that are written in it and not taken in. -/
theorem mem_referencesFrom_iff (pos : Nat) (ps : List CodePoint) :
    r ∈ referencesFrom pos (piecesFrom 0 ps) ↔ IsFound pos ps r := by
  induction ps using scan_induction generalizing pos with
  | nil =>
    refine ⟨fun h => absurd h List.not_mem_nil, ?_⟩
    rintro ⟨hwritten, -, before, after, heq, -, -⟩
    obtain ⟨body, -, -, hbody⟩ := hwritten.exists_braced
    rw [hbody, braced] at heq
    simp at heq
  | skip p ps hp ih =>
    rw [piecesFrom, hp, isFound_cons hp]
    exact ih (pos + 1)
  | take body rest hne hclosing ih =>
    rw [piecesFrom_braced hne hclosing, isFound_append hne hclosing, ← ih]
    cases ht : placeholderTarget? (braced body) with
    | none =>
      rw [referencesFrom]
      refine ⟨.inr, ?_⟩
      rintro (⟨-, hwritten, -, -⟩ | h)
      · rw [placeholderTarget?_eq_some.2 hwritten] at ht
        cases ht
      · exact h
    | some t =>
      rw [referencesFrom, List.mem_cons]
      refine or_congr_left ⟨?_, ?_⟩
      · rintro rfl
        exact ⟨rfl, placeholderTarget?_eq_some.1 ht, rfl, rfl⟩
      · rintro ⟨htext, hwritten, hstart, hstop⟩
        rw [placeholderTarget?_eq_some.2 hwritten] at ht
        obtain ⟨⟨points⟩, target, start, stop⟩ := r
        obtain rfl := Option.some.inj ht
        obtain rfl : points = _ := htext
        obtain rfl : start = pos := hstart
        obtain rfl : stop = _ := hstop
        rfl

/-- The parts of a text are the text. -/
theorem flatMap_points_pieces (s : Text) : (pieces s).flatMap Piece.points = s.points := by
  rw [pieces]
  induction s.points using scan_induction with
  | nil => rfl
  | skip p ps hp ih =>
    rw [piecesFrom, hp, List.flatMap_cons, ih]
    rfl
  | take body rest hne hclosing ih =>
    rw [piecesFrom_braced hne hclosing, List.flatMap_cons, ih]
    cases placeholderTarget? (braced body) <;> rfl

/-- **Exactly the placeholders that nothing before them takes in are found.**  A reference is found
in a text if and only if it is written there, with any blanks around its target, and every two
opening braces that begin before it are followed by a closing brace before it. -/
theorem mem_references_iff {s : Text} :
    r ∈ references s ↔ r.target.IsWritten r.text.points ∧ r.stop = r.start + r.text.length ∧
      ∃ before after, s.points = before ++ r.text.points ++ after ∧ r.start = before.length ∧
        IsClear before := by
  rw [references, pieces, mem_referencesFrom_iff, IsFound]
  simp only [Nat.zero_add]

/-- A placeholder behind a brace that stands alone. -/
def threeBracesText : Text := ↑"\x7b\x7b\x7bproperty.a\x7d\x7d"

/-- Not every placeholder is found: with a third brace in front, the match begins one brace too
early and is dropped as a whole. -/
theorem not_forall_mem_references :
    ¬ ∀ (s : Text) (r : Reference) (before after : List CodePoint),
      r.target.IsWritten r.text.points → r.stop = r.start + r.text.length →
        s.points = before ++ r.text.points ++ after → r.start = before.length →
          r ∈ references s := by
  intro h
  have hmem := h threeBracesText ⟨↑"\x7b\x7bproperty.a\x7d\x7d", ⟨.property, "a"⟩, 1, 15⟩ [opening]
    [] ⟨by decide, [], [], by simp, by simp, by decide⟩ (by decide) (by decide) rfl
  have hnone : references threeBracesText = [] := by decide
  rw [hnone] at hmem
  cases hmem

end Template
end WorkflowKit
