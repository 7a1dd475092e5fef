/-
# The characters of a page

A page holds only characters that a YAML text may hold, and no byte order mark: all others are
written as escapes (`clean_writeNode`).
-/

import WorkflowKit.Proofs.Json.RoundTrip
import WorkflowKit.Proofs.Yaml.Integer
import WorkflowKit.Proofs.Yaml.Step

namespace WorkflowKit
namespace Yaml

open Value (PlainItems PlainEntries)

/-- Whether a character stands in a page: a YAML text may hold it, and it is no byte order mark. -/
def isClean (c : Char) : Bool := isAllowed c && c != '\ufeff'

/-- Characters that are not special may stand in a page. -/
theorem isClean_of_isSpecial {c : Char} (h : isSpecial c = false) : isClean c = true := by
  have hmark := (of_isSpecial h).2.2.2
  simp only [isSpecial, Bool.and_eq_false_iff, Bool.not_eq_false', Bool.or_eq_true,
    Bool.and_eq_true, beq_iff_eq, decide_eq_true_eq, bne_iff_ne] at h
  rw [isClean, Bool.and_eq_true, bne_iff_ne]
  refine ⟨?_, hmark⟩
  simp only [isAllowed, Bool.or_eq_true, Bool.and_eq_true, beq_iff_eq, decide_eq_true_eq]
  rcases h with (rfl | h) | h
  · decide
  · omega
  · omega

/-- So may the printable characters of ASCII. -/
theorem isClean_of_ascii {c : Char} (h : 0x20 ≤ c.toNat ∧ c.toNat ≤ 0x7e) : isClean c = true :=
  isClean_of_isSpecial (by simp [isSpecial, h])

/-- So may the digits in base 16. -/
theorem isClean_of_isHexDigit {c : Char} (h : isHexDigit c = true) : isClean c = true := by
  refine isClean_of_ascii ?_
  rw [isHexDigit] at h
  split at h
  · next v hv =>
    rw [Number.digitValue?] at hv
    split at hv
    · next hc =>
      have h1 : '0'.toNat ≤ c.toNat := hc.1
      have h2 : c.toNat ≤ '9'.toNat := hc.2
      simp only [Char.reduceToNat] at h1 h2
      omega
    · split at hv
      · next hc =>
        have h1 : 'a'.toNat ≤ c.toNat := hc.1
        have h2 : c.toNat ≤ 'z'.toNat := hc.2
        simp only [Char.reduceToNat] at h1 h2
        omega
      · split at hv
        · next hc =>
          have h1 : 'A'.toNat ≤ c.toNat := hc.1
          have h2 : c.toNat ≤ 'Z'.toNat := hc.2
          simp only [Char.reduceToNat] at h1 h2
          omega
        · cases hv
  · cases h

namespace Page

variable {p : Page} {l : Layout} {cs : List Char}

/-- An escape is written with characters of ASCII, whatever it stands for. -/
theorem isClean_escaped (q : CodePoint) : ∀ c ∈ escaped q, isClean c = true := by
  have hhex {w : Nat} {letter : Char} (hw : 0 < w) (hq : q.number < 16 ^ w)
      (hletter : isClean letter = true) :
      ∀ c ∈ '\\' :: letter :: upperHex w q.number, isClean c = true := by
    simp only [List.forall_mem_cons]
    exact ⟨rfl, hletter, fun c hc => isClean_of_isHexDigit ((upperHex_spec hw hq).2.1 c hc)⟩
  rw [escaped]
  split
  · next l h =>
    obtain ⟨d, -, hl⟩ := Option.bind_eq_some_iff.1 h
    have hletter : isClean l = true := by
      unfold escapeLetter? at hl
      split at hl <;> cases hl <;> rfl
    simpa using ⟨rfl, hletter⟩
  · split
    · exact hhex (by decide) (by omega) rfl
    · split
      · exact hhex (by decide) (by omega) rfl
      · exact hhex (by decide) (Nat.lt_trans (number_lt q) (by decide)) rfl

/-- What stands for itself between double quotes may stand in a page. -/
theorem isClean_of_standsForItself {c : Char} (h : standsForItself c = true) :
    isClean c = true := by
  simp only [standsForItself, Bool.and_eq_true, Bool.or_eq_true, decide_eq_true_eq,
    bne_iff_ne] at h
  obtain ⟨⟨-, hmark⟩, hrange⟩ := h
  rw [isClean, Bool.and_eq_true, bne_iff_ne]
  refine ⟨?_, hmark⟩
  simp only [isAllowed, Bool.or_eq_true, Bool.and_eq_true, beq_iff_eq, decide_eq_true_eq]
  omega

/-- Whether a page holds only characters that may stand in it. -/
def Clean (p : Page) : Prop := ∀ c ∈ p.written, isClean c = true

namespace Clean

/-- The empty page is clean. -/
theorem empty : Clean .empty := nofun

/-- Clean characters keep a page clean. -/
theorem put (h : p.Clean) (hcs : ∀ c ∈ cs, isClean c = true) : (p.put cs).Clean := by
  rw [Clean, Page.put, List.forall_mem_append]
  exact ⟨fun c hc => hcs c (List.mem_reverse.1 hc), h⟩

/-- So does an indicator, with the blank that it may need. -/
theorem indicator (h : p.Clean) (hcs : ∀ c ∈ cs, isClean c = true) (needsBlank blank fresh : Bool) :
    (p.indicator cs needsBlank blank fresh).Clean := by
  rw [Page.indicator]
  split
  · exact h.put hcs
  · exact h.put (List.forall_mem_cons.2 ⟨rfl, hcs⟩)

/-- So does a line break, of whichever kind. -/
theorem endLine (h : p.Clean) {c : Char} (hc : isWrittenBreak c = true) : (p.endLine c).Clean := by
  refine List.forall_mem_cons.2 ⟨?_, h⟩
  simp only [isWrittenBreak, Bool.or_eq_true, beq_iff_eq] at hc
  rcases hc with ((rfl | rfl) | rfl) | rfl <;> rfl

/-- So does an indentation. -/
theorem indent (h : p.Clean) (n : Nat) : (p.indent n).Clean := by
  have hblanks (k : Nat) : ∀ c ∈ List.replicate k ' ', isClean c = true := fun c hc => by
    rw [List.eq_of_mem_replicate hc]
    rfl
  have hput {r : Page} (hr : r.Clean) : Clean (if r.column < n then
      { r.put (List.replicate (n - r.column) ' ') with blank := true } else r) := by
    split
    · exact hr.put (hblanks _)
    · exact hr
  rw [Page.indent]
  refine hput ?_
  split
  · exact h.endLine rfl
  · exact h

/-- So do line breaks in a row. -/
theorem foldl_endLine (h : p.Clean) (hcs : ∀ c ∈ cs, isWrittenBreak c = true) :
    (cs.foldl (fun p c => p.endLine c) p).Clean := by
  induction cs generalizing p with
  | nil => exact h
  | cons c cs ih =>
    rw [List.forall_mem_cons] at hcs
    exact ih (h.endLine hcs.1) hcs.2

/-- So do the line breaks of a text. -/
theorem breaks (h : p.Clean) (hcs : ∀ c ∈ cs, isWrittenBreak c = true) (l : Layout) :
    (p.breaks l cs).Clean := by
  rw [Page.breaks]
  refine (foldl_endLine ?_ hcs).indent _
  split
  · exact h.endLine rfl
  · exact h

variable {rs : List Run}

/-- A plain text whose characters may stand in a page keeps it clean. -/
theorem plainRuns (h : p.Clean) (hrs : Proper rs) (hclean : ∀ c ∈ runChars rs, isClean c = true)
    (l : Layout) : (plainRuns l rs p).Clean := by
  induction rs generalizing p with
  | nil => exact h
  | cons r rs ih =>
    rw [runChars_cons, List.forall_mem_append] at hclean
    have hrest {q : Page} (hq : q.Clean) := ih hq hrs.2.2.2 hclean.2
    cases r with
    | blanks n =>
      rw [Page.plainRuns]
      refine hrest ?_
      split
      · exact h.indent l.indent
      · exact h.put hclean.1
    | breaks cs => exact hrest (h.breaks hrs.2.1 l)
    | word cs => exact hrest (h.put hclean.1)

/-- A text in single quotes whose characters may stand in a page keeps it clean. -/
theorem singleRuns (h : p.Clean) (hrs : Proper rs) (hclean : ∀ c ∈ runChars rs, isClean c = true)
    (l : Layout) (first : Bool) : (singleRuns l first rs p).Clean := by
  induction rs generalizing first p with
  | nil => exact h
  | cons r rs ih =>
    rw [runChars_cons, List.forall_mem_append] at hclean
    have hrest {q : Page} (hq : q.Clean) := ih hq hrs.2.2.2 hclean.2
    cases r with
    | blanks n =>
      rw [Page.singleRuns]
      refine hrest ?_ _
      split
      · exact h.indent l.indent
      · exact h.put hclean.1
    | breaks cs => exact hrest (h.breaks hrs.2.1 l) _
    | word cs =>
      refine hrest (h.put ?_) _
      simp only [List.mem_flatMap]
      rintro c ⟨d, hd, hc⟩
      have hdc : c = d := by
        split at hc <;> simpa using hc
      rw [hdc]
      exact hclean.1 d hd

/-- What is written does not change. -/
theorem insideText (h : p.Clean) : p.insideText.Clean := h

/-- A line that is broken between double quotes keeps the page clean, as its backslashes do. -/
theorem breakDouble (h : p.Clean) {pending : List Char}
    (hpending : ∀ c ∈ pending, isClean c = true) (l : Layout) (next : Char) :
    (p.breakDouble l pending next).Clean := by
  have hput : (p.put (pending.reverse ++ ['\\'])).Clean := by
    refine h.put (List.forall_mem_append.2 ⟨fun c hc => hpending c (List.mem_reverse.1 hc), ?_⟩)
    simp [isClean, isAllowed]
  rw [Page.breakDouble]
  split
  · exact (hput.indent l.indent).insideText.put (by simp [isClean, isAllowed])
  · exact hput.indent l.indent

/-- A text in double quotes keeps the page clean whatever its code points are: those that may not
stand there are escaped. -/
theorem doublePoints (h : p.Clean) {pending : List Char}
    (hpending : ∀ c ∈ pending, isClean c = true) (l : Layout) (first : Bool) (qs : List CodePoint) :
    (doublePoints l first pending qs p).Clean := by
  have hreverse {cs : List Char} (hcs : ∀ c ∈ cs, isClean c = true) :
      ∀ c ∈ cs.reverse, isClean c = true := fun c hc => hcs c (List.mem_reverse.1 hc)
  induction qs generalizing first pending p with
  | nil => exact h.put (hreverse hpending)
  | cons q qs ih =>
    simp only [Page.doublePoints]
    split
    · next hq =>
      have hself : isClean q.toChar = true := by
        cases q with
        | char c => exact isClean_of_standsForItself hq
        | half n => cases hq
      split
      · exact ih (h.breakDouble hpending l _) (by simpa using hself) _
      · exact ih h (List.forall_mem_cons.2 ⟨hself, hpending⟩) _
    · have hput : (p.put (pending.reverse ++ escaped q)).Clean :=
        h.put (List.forall_mem_append.2 ⟨hreverse hpending, isClean_escaped q⟩)
      refine ih ?_ (by simp) _
      split
      · exact hput.breakDouble (by simp) l _
      · exact hput

/-- A text in a style that suits it. -/
theorem styled (h : p.Clean) {style : Style} {t : Text} (ht : style.Suits t) (l : Layout) :
    (p.styled style l t).Clean := by
  cases style with
  | plain =>
    obtain ⟨cs, rfl, -, hcs⟩ := ht
    obtain ⟨hproper, hchars⟩ := proper_runs cs
    simp only [allowsPlain, Bool.and_eq_true, Bool.not_eq_true', List.any_eq_false] at hcs
    have hclean : ∀ c ∈ runChars (runs cs), isClean c = true := by
      rw [hchars]
      exact fun c hc => isClean_of_isSpecial (by simpa using hcs.1.2 c hc)
    rw [Page.styled, Text.chars_ofChars, Page.plain]
    refine plainRuns (insideText ?_) hproper hclean l
    split
    · exact h
    · exact h.put (by simp [isClean, isAllowed])
  | single =>
    obtain ⟨cs, rfl, hcs⟩ := ht
    obtain ⟨hproper, hchars⟩ := proper_runs cs
    simp only [allowsSingle, Bool.and_eq_true, Bool.not_eq_true', List.any_eq_false] at hcs
    have hclean : ∀ c ∈ runChars (runs cs), isClean c = true := by
      rw [hchars]
      exact fun c hc => isClean_of_isSpecial (by simpa using hcs.2 c hc)
    have hquote : ∀ c ∈ ['\x27'], isClean c = true := by simp [isClean, isAllowed]
    rw [Page.styled, Text.chars_ofChars, Page.single]
    exact (singleRuns (h.indicator hquote _ _ _) hproper hclean l _).indicator hquote _ _ _
  | double =>
    have hquote : ∀ c ∈ ['"'], isClean c = true := by simp [isClean, isAllowed]
    have hnone : ∀ c ∈ ([] : List Char), isClean c = true := List.forall_mem_nil _
    exact (doublePoints (h.indicator hquote _ _ _) hnone l true t.points).indicator hquote _ _ _

/-- A word or an integer as a value. -/
theorem plain (h : p.Clean) (hne : cs ≠ []) (hcs : allowsPlain cs = true) (l : Layout) :
    (p.plain l cs).Clean := by
  have hsuits : Style.plain.Suits (.ofChars cs) := ⟨cs, rfl, hne, hcs⟩
  have hstyled := h.styled hsuits l
  rwa [Page.styled, Text.chars_ofChars] at hstyled

/-- A character of its own. -/
theorem mark (h : p.Clean) {c : Char} (hc : isClean c = true) (needsBlank blank fresh : Bool) :
    (p.indicator [c] needsBlank blank fresh).Clean :=
  h.indicator (by simpa using hc) _ _ _

end Clean
end Page

open Page

mutual

/-- **The page of a value is clean.** -/
theorem clean_writeNode {p : Page} (at_ : Position) (h : p.Clean) (v : Value) (hv : v.Plain) :
    (writeNode at_ p v).Clean := by
  cases v with
  | null => exact h.plain (by decide) (by decide) _
  | bool b => cases b <;> exact h.plain (by decide) (by decide) _
  | int n => exact h.plain (intText_ne_nil n) (allowsPlain_intText n) _
  | float x => exact hv.elim
  | text s => exact h.styled (suits_styleOf false s) _
  | list vs =>
    cases vs with
    | nil => exact (h.mark rfl _ _ _).mark rfl _ _ _
    | cons v vs => exact clean_writeItems _ h (v :: vs) hv
  | map es =>
    cases es with
    | nil => exact (h.mark rfl _ _ _).mark rfl _ _ _
    | cons e es => exact clean_writeEntries _ h (e :: es) hv.2

/-- The items of a list keep a page clean. -/
theorem clean_writeItems {p : Page} (n : Nat) (h : p.Clean) (vs : List Value)
    (hv : PlainItems vs) : (writeItems n p vs).Clean := by
  cases vs with
  | nil => exact h
  | cons v vs =>
    rw [writeItems]
    exact clean_writeItems n
      (clean_writeNode _ ((h.indent n).mark rfl _ _ _) v hv.1) vs hv.2

/-- The entries of a mapping keep a page clean. -/
theorem clean_writeEntries {p : Page} (n : Nat) (h : p.Clean) (es : List (Text × Value))
    (hv : PlainEntries es) : (writeEntries n p es).Clean := by
  cases es with
  | nil => exact h
  | cons e es =>
    obtain ⟨k, v⟩ := e
    rw [writeEntries]
    refine clean_writeEntries n (clean_writeNode _ ?_ v hv.1) es hv.2
    split
    · exact ((h.indent n).styled (suits_styleOf true k) _).mark rfl _ _ _
    · exact ((((h.indent n).mark rfl _ _ _).styled (suits_styleOf false k) _).indent n).mark rfl
        _ _ _

end
end Yaml
end WorkflowKit
