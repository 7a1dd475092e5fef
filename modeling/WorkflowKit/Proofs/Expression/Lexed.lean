/-
# The tokens of a text and its texts between quotes

The texts between quotes among the tokens of a text are those that are found without cutting it into
tokens (`quotesOf_tokens?`): a token is a text between quotes, or leads to a place where a token has
ended (`TakesToken.scan_eq`), and what stands between tokens holds none.
-/

import Mathlib.Data.List.TakeWhile
import WorkflowKit.Proofs.Expression.Numerals
import WorkflowKit.Proofs.Expression.Texts
import WorkflowKit.Proofs.Expression.Tokens

namespace WorkflowKit
namespace Expression

variable {s : Lead} {c : Char} {w cs rest : List Char} {t : Token} {ts : List Token}
  {parted : Bool}

/-! ### Names and texts between quotes -/

theorem isInk_of_isPrefixLetter (h : isPrefixLetter c = true) : isInk c = true := by
  unfold isPrefixLetter Char.toLower at h
  split at h
  · next hu =>
    have hupper : c.isUpper = true := decide_eq_true hu
    simp [isInk, Char.isAlphanum, Char.isAlpha, hupper]
  · simp at h
    rcases h with rfl | rfl | rfl | rfl <;> rfl

theorem isInk_of_extendsName (h : extendsName c = true) (hc : c.toNat < 0x80) :
    isInk c = true := by
  simp only [extendsName, opensName, Bool.or_eq_true, decide_eq_true_eq] at h
  rcases h with ((h | h) | h) | h
  · simp [isInk, Char.isAlphanum, h]
  · simp [isInk, h]
  · omega
  · simp [isInk, Char.isAlphanum, h]

/-- No name holds a blank. -/
theorem isBlank_of_nameToken? (h : nameToken? w = some t) (hw : ∀ c ∈ w, extendsName c = true) :
    ∀ c ∈ w, Text.isBlank c = false := by
  intro c hc
  by_cases hascii : c.toNat < 0x80
  · exact isBlank_of_isInk (isInk_of_extendsName (hw c hc) hascii)
  · have hidentifier : Text.isIdentifier w = true := by
      unfold nameToken? at h
      split at h
      · cases h
      · next hnot =>
        have hall : (w.all fun c => c.toNat < 0x80) = false := by
          rw [List.all_eq_false]
          exact ⟨c, hc, by simpa using hascii⟩
        simpa [hall] using hnot
    cases w with
    | nil => cases hc
    | cons d w =>
      rw [Text.isIdentifier, Bool.and_eq_true, List.all_eq_true] at hidentifier
      rcases List.mem_cons.1 hc with rfl | hc
      · have hstart := hidentifier.1
        rw [Text.isIdentifierStart, if_neg hascii, Bool.and_eq_true, Bool.not_eq_true'] at hstart
        exact hstart.1
      · have hpart := hidentifier.2 c hc
        rw [Text.isIdentifierPart, if_neg hascii, Bool.and_eq_true, Bool.not_eq_true'] at hpart
        exact hpart.1

theorem isSilent_of_nameToken? (h : nameToken? w = some t) : t.isSilent = true := by
  unfold nameToken? at h
  split at h
  · cases h
  · split at h
    · cases h
      rfl
    · split at h
      · cases h
      · cases h
        rfl

theorem isPrefixLetter_of_quotationLetters {e : List Char × Bool × Bool × Bool}
    (he : e ∈ quotationLetters) (heq : (e.1 == w.map Char.toLower) = true) :
    ∀ c ∈ w, isPrefixLetter c = true := by
  intro c hc
  exact contains_of_mem_quotationLetters e he _ (eq_of_beq heq ▸ List.mem_map_of_mem hc)

theorem all_isQuote_of_extendsName (hw : ∀ c ∈ w, extendsName c = true) :
    w.all (fun c => !isQuote c) = true :=
  List.all_eq_true.2 fun c hc => by rw [isQuote_of_extendsName (hw c hc)]; rfl

/-- Letters at the front of a text. -/
theorem scan_letters (hw : ∀ c ∈ w, extendsName c = true ∧ Text.isBlank c = false) :
    scan 0 (.fresh parted) (w ++ cs) = scan 0 ⟨false, w.reverse, parted⟩ cs := by
  rw [scan_plain (all_isQuote_of_extendsName fun c hc => (hw c hc).1),
    Lead.foldl_next_of_extendsName rfl hw]
  exact congrArg (scan 0 ⟨false, ·, parted⟩ cs) (List.append_nil _)

/-- Behind a name that does not go on and is not part of a text between quotes. -/
theorem scan_name (hne : w ≠ []) (hcs : ∀ c ∈ cs.head?, extendsName c = false)
    (hquote : (∃ q ∈ cs.head?, isQuote q = true) →
      quotationLetters.find? (fun e => e.1 == w.map Char.toLower) = none) :
    scan 0 ⟨false, w.reverse, parted⟩ cs = scan 0 (.fresh true) cs := by
  cases cs with
  | nil => rfl
  | cons c cs =>
    have hc : extendsName c = false := hcs c rfl
    by_cases hq : isQuote c = true
    · have hnone := hquote ⟨c, rfl, hq⟩
      cases hafter : afterQuote? c cs with
      | none => rw [scan_unclosed hq rfl hafter, scan_unclosed hq rfl hafter]
      | some p =>
        rw [scan_quote hq rfl hafter, scan_quote hq rfl hafter, Lead.quote_fresh, Lead.quote,
          List.reverse_reverse, hnone]
    · have hrun : w.reverse.isEmpty = false := by cases hr : w.reverse <;> simp_all
      rw [scan_next (by simp [hq]), scan_next (by simp [hq])]
      refine congrArg (scan 0 · cs) ?_
      simp [Lead.next, Lead.fresh, hc, hrun]

/-- A text between quotes behind some letters. -/
theorem scan_quotation {q : Quotation} (hcs : ∃ c ∈ cs.head?, isQuote c = true)
    (h : quotation? w cs = some (q, rest)) :
    scan 0 ⟨false, w.reverse, parted⟩ cs = (parted, q) :: scan 0 (.fresh false) rest := by
  cases cs with
  | nil => cases h
  | cons c cs =>
    obtain ⟨d, hd, hq⟩ := hcs
    cases hd
    obtain ⟨⟨ls, bytes, raw, formatted⟩, hfind, h⟩ := Option.bind_eq_some_iff.1 h
    obtain ⟨⟨body, us⟩, hafter, h⟩ := Option.bind_eq_some_iff.1 h
    cases h
    rw [scan_quote hq rfl hafter, Lead.quote, List.reverse_reverse, hfind]

/-! ### Tokens -/

theorem scan_mark {m : Option Mark} (hm : (w, m) ∈ marks) :
    scan 0 (.fresh parted) (w ++ cs) = scan 0 (.fresh true) cs := by
  have hmarks : ∀ e ∈ marks, e.1.all (fun c => !isQuote c) = true ∧
      ∀ parted, e.1.foldl Lead.next (.fresh parted) = .fresh true := by
    decide
  obtain ⟨hplain, hfold⟩ := hmarks _ hm
  rw [scan_plain hplain, hfold]

/-- The letters at the front of a text, and what follows them. -/
theorem letters_spec (hw : cs.takeWhile extendsName = w) :
    w ++ cs.drop w.length = cs ∧ (∀ c ∈ w, extendsName c = true) ∧
      ∀ c ∈ (cs.drop w.length).head?, extendsName c = false := by
  have hsplit : w ++ cs.dropWhile extendsName = cs := hw ▸ List.takeWhile_append_dropWhile
  have hdrop : cs.drop w.length = cs.dropWhile extendsName :=
    calc cs.drop w.length = (w ++ cs.dropWhile extendsName).drop w.length := by rw [hsplit]
      _ = cs.dropWhile extendsName := List.drop_left
  refine ⟨by rw [hdrop, hsplit], fun c hc => List.mem_takeWhile_imp (hw.symm ▸ hc), ?_⟩
  intro c hc
  rw [hdrop] at hc
  have hnot := List.head?_dropWhile_not extendsName cs
  rw [Option.mem_def.1 hc] at hnot
  simpa using hnot

/-- What is taken for a token at the start of a text, and what stands behind it. -/
inductive TakesToken : List Char → Token → List Char → Prop
  /-- A text between quotes behind some letters. -/
  | quotation {w cs rest : List Char} {q : Quotation}
    (letters : ∀ c ∈ w, extendsName c = true ∧ Text.isBlank c = false)
    (quote : ∃ c ∈ cs.head?, isQuote c = true) (reads : quotation? w cs = some (q, rest)) :
    TakesToken (w ++ cs) (.quotation q) rest
  /-- A name that is not part of a text between quotes. -/
  | name {w cs : List Char} {t : Token} (ne_nil : w ≠ [])
    (letters : ∀ c ∈ w, extendsName c = true ∧ Text.isBlank c = false)
    (ends : ∀ c ∈ cs.head?, extendsName c = false)
    (apart : (∃ q ∈ cs.head?, isQuote q = true) →
      quotationLetters.find? (fun e => e.1 == w.map Char.toLower) = none)
    (silent : t.isSilent = true) : TakesToken (w ++ cs) t cs
  /-- A numeral. -/
  | numeral {cs rest : List Char} {n : Numeral}
    (first : (∃ d ∈ cs.head?, d.isDigit = true) ∨ cs.head? = some '.')
    (reads : numeral? cs = some (n, rest)) : TakesToken cs (.numeral n) rest
  /-- A mark. -/
  | mark {w cs : List Char} {m : Mark} (mem : (w, some m) ∈ marks) :
    TakesToken (w ++ cs) (.mark m) cs

/-- What is taken for a token where a name may begin. -/
theorem takesToken_of_opensName {c : Char} (hopens : opensName c = true)
    (h : token? (c :: cs) = some (t, rest)) : TakesToken (c :: cs) t rest := by
  generalize hw : (c :: cs).takeWhile extendsName = w
  obtain ⟨hletters, hextends, hends⟩ := letters_spec hw
  have hne : w ≠ [] := by
    rintro rfl
    rw [List.takeWhile_cons, if_pos (by simp [extendsName, hopens])] at hw
    cases hw
  rw [token?, hw] at h
  simp only [hopens, if_true] at h
  rw [← hletters]
  split at h
  · next hquotation =>
    obtain ⟨⟨q, us⟩, hq, h⟩ := Option.map_eq_some_iff.1 h
    cases h
    simp only [Bool.and_eq_true, List.any_eq_true, Option.any_eq_true] at hquotation
    obtain ⟨hquote, e, he, heq⟩ := hquotation
    exact .quotation (fun c hc => ⟨hextends c hc, isBlank_of_isInk
      (isInk_of_isPrefixLetter (isPrefixLetter_of_quotationLetters he heq c hc))⟩) hquote hq
  · next hquotation =>
    obtain ⟨t', ht', h⟩ := Option.map_eq_some_iff.1 h
    cases h
    refine .name hne (fun c hc => ⟨hextends c hc, isBlank_of_nameToken? ht' hextends c hc⟩) hends ?_
      (isSilent_of_nameToken? ht')
    rintro ⟨q, hq, hquote⟩
    rw [List.find?_eq_none]
    intro e he heq
    refine hquotation ?_
    rw [Bool.and_eq_true]
    exact ⟨(Option.any_eq_true _ _).2 ⟨q, hq, hquote⟩, List.any_eq_true.2 ⟨e, he, heq⟩⟩

theorem takesToken_of_token? (h : token? cs = some (t, rest)) : TakesToken cs t rest := by
  cases cs with
  | nil => cases h
  | cons c cs =>
    cases hopens : opensName c with
    | true => exact takesToken_of_opensName hopens h
    | false =>
      rw [token?] at h
      simp only [hopens, Bool.false_eq_true, if_false] at h
      split at h
      · next hquote =>
        obtain ⟨⟨q, us⟩, hq, h⟩ := Option.map_eq_some_iff.1 h
        cases h
        exact .quotation (w := []) (by simp) ⟨c, rfl, hquote⟩ hq
      · split at h
        · next hdigit =>
          obtain ⟨⟨n, us⟩, hn, h⟩ := Option.map_eq_some_iff.1 h
          cases h
          rw [Bool.or_eq_true, Bool.and_eq_true, beq_iff_eq] at hdigit
          exact .numeral (hdigit.imp (fun hc => ⟨c, rfl, hc⟩) fun hc => congrArg some hc.1) hn
        · split at h
          · next v m hfind =>
            cases h
            have hprefix : v.isPrefixOf (c :: cs) = true := by simpa using List.find?_some hfind
            obtain ⟨us, hus⟩ := List.isPrefixOf_iff_prefix.1 hprefix
            rw [← hus, List.drop_left]
            exact .mark (List.mem_of_find?_eq_some hfind)
          · cases h

/-- **A token is a text between quotes, or a token has ended behind it.** -/
theorem TakesToken.scan_eq (h : TakesToken cs t rest)
    (hts : ∀ parted, scan 0 (.fresh parted) rest = quotesOf parted ts) :
    scan 0 (.fresh parted) cs = quotesOf parted (t :: ts) := by
  cases h with
  | quotation letters quote reads =>
    rw [scan_letters letters, scan_quotation quote reads, hts]
    rfl
  | name ne_nil letters ends apart silent =>
    rw [scan_letters letters, scan_name ne_nil ends apart, hts, quotesOf_silent silent]
  | numeral first reads =>
    obtain ⟨v, hv, hspells, hends⟩ := numeral?_spells reads first
    rw [hv, hspells.scan_eq rfl hends, hts]
    rfl
  | mark mem =>
    rw [scan_mark mem, hts]
    rfl

/-! ### Lines -/

theorem scan_blank (hc : (Text.isBlank c || c == '\\') = true) :
    scan 0 (.fresh parted) (c :: cs) = scan 0 (.fresh parted) cs := by
  have hquote : isQuote c = false := by
    rw [Bool.eq_false_iff]
    intro hq
    simp only [isQuote, Bool.or_eq_true, beq_iff_eq] at hq
    rcases hq with rfl | rfl <;> cases hc
  rw [scan_next (by simp [hquote])]
  refine congrArg (scan 0 · cs) ?_
  simp [Lead.next, Lead.fresh, hc]

/-- Part of a comment. -/
theorem scan_inComment (hn : c ≠ '\n') :
    scan 0 ⟨true, [], parted⟩ (c :: cs) = scan 0 ⟨true, [], parted⟩ cs := by
  rw [scan_next (by simp)]
  refine congrArg (scan 0 · cs) ?_
  simp [Lead.next, hn]

/-- The end of a line, which may end a comment. -/
theorem scan_lineFeed {comment : Bool} :
    scan 0 ⟨comment, [], parted⟩ ('\n' :: cs) = scan 0 (.fresh parted) cs := by
  cases comment with
  | true => rw [scan_next (by simp)]; rfl
  | false => exact scan_blank rfl

/-- The beginning of a comment. -/
theorem scan_sharp : scan 0 (.fresh parted) ('#' :: cs) = scan 0 ⟨true, [], parted⟩ cs := by
  rw [scan_next (by rfl)]
  refine congrArg (scan 0 · cs) ?_
  simp [Lead.next, Lead.fresh, Text.isBlank, Text.isSpace]

/-- Behind a comment. -/
theorem scan_comment (cs : List Char) :
    scan 0 ⟨true, [], parted⟩ cs = scan 0 (.fresh parted) (cs.dropWhile (· ≠ '\n')) := by
  induction cs with
  | nil => rfl
  | cons c cs ih =>
    by_cases hn : c = '\n'
    · rw [List.dropWhile_cons, if_neg (by simp [hn]), hn, scan_lineFeed]
      exact scan_lineFeed.symm
    · rw [List.dropWhile_cons, if_pos (by simp [hn]), ← ih, scan_inComment hn]

/-- Lines without tokens hold no text between quotes. -/
theorem lineStart?_scan {comment column fixed : Bool}
    (h : lineStart? comment column fixed cs = some rest) :
    scan 0 ⟨comment, [], parted⟩ cs = scan 0 (.fresh parted) rest := by
  fun_induction lineStart? comment column fixed cs with
  | case1 =>
    cases h
    rfl
  | case2 _ _ _ cs ih => exact scan_lineFeed.trans (ih h)
  | case3 _ _ c cs hn ih => exact (scan_inComment hn).trans (ih h)
  | case4 comment _ _ c cs _ hcomment hgap ih =>
    rw [Bool.not_eq_true] at hcomment
    rw [hcomment]
    exact (scan_blank (by rcases hgap with rfl | rfl <;> rfl)).trans (ih h)
  | case5 comment _ _ cs hcomment _ _ ih =>
    rw [Bool.not_eq_true] at hcomment
    rw [hcomment]
    exact (scan_blank rfl).trans (ih h)
  | case6 comment _ _ cs hcomment _ _ _ ih =>
    rw [Bool.not_eq_true] at hcomment
    rw [hcomment]
    exact scan_sharp.trans (ih h)
  | case8 comment _ _ hcomment cs _ _ _ _ _ ih =>
    rw [Bool.not_eq_true] at hcomment
    rw [hcomment]
    exact (scan_blank rfl).trans (scan_lineFeed.trans (ih h))
  | case11 comment _ _ c cs _ hcomment =>
    cases h
    rw [Bool.not_eq_true] at hcomment
    rw [hcomment]
    rfl
  | case7 | case9 | case10 => cases h

/-! ### Texts -/

theorem tokensFrom?_scan {fuel depth : Nat} (h : tokensFrom? fuel depth cs = some ts)
    (parted : Bool) : scan 0 (.fresh parted) cs = quotesOf parted ts := by
  induction fuel generalizing depth cs ts parted with
  | zero => cases h
  | succ fuel ih =>
    cases cs with
    | nil =>
      rw [tokensFrom?] at h
      split at h <;> cases h
      rfl
    | cons c cs =>
      rw [tokensFrom?.eq_def] at h
      dsimp only at h
      -- In the order of the reader: blanks, a comment, a line that goes on, a line end, a token.
      split at h
      · next hgap =>
        have hblank : (Text.isBlank c || c == '\\') = true := by
          simp only [isGap, Bool.or_eq_true, beq_iff_eq] at hgap
          rcases hgap with (rfl | rfl) | rfl <;> rfl
        exact (scan_blank hblank).trans (ih h parted)
      · split at h
        · next hsharp => rw [hsharp, scan_sharp, scan_comment, ih h]
        · split at h
          · next hbackslash =>
            split at h
            · split at h
              · cases h
              · rw [hbackslash, scan_blank rfl, scan_blank rfl, ih h]
            · cases h
          · split at h
            · next hfeed =>
              rw [hfeed, scan_blank rfl]
              split at h
              · exact ih h parted
              · obtain ⟨rest, hrest, h⟩ := Option.bind_eq_some_iff.1 h
                obtain ⟨us, hus, h⟩ := Option.map_eq_some_iff.1 h
                cases h
                exact (lineStart?_scan hrest).trans (ih hus parted)
            · obtain ⟨⟨t, rest⟩, ht, h⟩ := Option.bind_eq_some_iff.1 h
              obtain ⟨depth', -, h⟩ := Option.bind_eq_some_iff.1 h
              obtain ⟨us, hus, h⟩ := Option.map_eq_some_iff.1 h
              cases h
              exact (takesToken_of_token? ht).scan_eq (ih hus)

/-- **The texts between quotes among the tokens of a text** are those that are found without cutting
it into tokens. -/
theorem quotesOf_tokens? (h : tokens? cs = some ts) :
    quotesOf true ts = scan 0 (.fresh true) cs := by
  obtain ⟨rest, hrest, h⟩ := Option.bind_eq_some_iff.1 h
  exact ((lineStart?_scan hrest).trans (tokensFrom?_scan h true)).symm

end Expression
end WorkflowKit
