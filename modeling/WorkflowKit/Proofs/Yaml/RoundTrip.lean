/-
# Values that are written as YAML and read again

The YAML text of a plain mapping is read as its document, if its texts are legible (`read_write`):
the text is cut into the tokens of the mapping (`tokens_writeEntries`), these are read into a tree
that shows it, and such a tree describes what it shows.
-/

import WorkflowKit.Proofs.Yaml.Printable
import WorkflowKit.Proofs.Yaml.Tree
import WorkflowKit.Yaml.Reader
import WorkflowKit.Yaml.Writer

namespace WorkflowKit

/-- Whether the texts of a whole document are read as they are written. -/
def Value.isLegibleDocument : Value → Bool
  | list vs => isLegibleItems 0 vs
  | map es => isLegibleEntries 0 es
  | v => v.isLegible 0 false

namespace Yaml

open Page
open Value (isLegibleEntries PlainEntries)

variable {v : Value} {es : List (Text × Value)} {e : Page} {s : String}

/-! ### Tokens -/

/-- A clean page is cut into the tokens that a run comes to. -/
theorem tokens_of_ends {ts : List Token} (hclean : e.Clean)
    (h : (e.lexer (-1) [] .empty []).Ends ts) : tokens e.written.reverse = (ts, none) := by
  have hmark : ((Lexer.start e.written.reverse).cursor.peek == '\ufeff') = false := by
    rw [beq_eq_false_iff_ne, Cursor.peek]
    cases hchars : e.written.reverse with
    | nil => exact of_decide_eq_false rfl
    | cons c cs =>
      have hc := hclean c (List.mem_reverse.1 (hchars ▸ List.mem_cons_self ..))
      rw [isClean, Bool.and_eq_true, bne_iff_ne] at hc
      exact hc.2
  have hlength : e.written.reverse.length < e.written.reverse.length + 2 := by omega
  have hstart : Lexer.start e.written.reverse = e.lexer (-1) [] .empty [] := rfl
  rw [tokens, hmark, hstart]
  exact h.run_eq _ hlength

/-- **The text of a mapping is cut into its tokens.** -/
theorem tokens_writeEntries (hne : es ≠ []) (hv : PlainEntries es)
    (hl : isLegibleEntries 0 es = true) :
    tokens ((writeEntries 0 .empty es).indent 0).written.reverse =
      (valueTokens false (.map es) ++ [.streamEnd], none) := by
  refine tokens_of_ends ((clean_writeEntries 0 Clean.empty es hv).indent 0) ?_
  refine ends_entries es hne hv hl (follows_indent _ 0) (Nat.le_refl 0) (List.mem_singleton_self _)
    (.new (by decide)) ?_
  obtain ⟨x, xs, rfl⟩ := List.exists_cons_of_ne_nil hne
  have hlast := ends_last (writeEntries 0 .empty (x :: xs))
    ((entryTokens (x :: xs)).reverse ++ [.blockMapping])
  rw [List.reverse_append, List.reverse_reverse] at hlast
  rwa [valueTokens_map, List.cons_append, List.append_assoc]

/-! ### Trees -/

namespace Node

/-- The tokens of a mapping are a document. -/
theorem takes_document {ended : Fault} {fuel : Nat} (hne : es ≠ []) (hv : (Value.map es).Plain)
    (hlong : (Value.map es).holdsLongInt = false)
    (hfuel : 3 * (valueTokens false (.map es)).length ≤ fuel) :
    Takes (document ended fuel) (valueTokens false (.map es) ++ [.streamEnd]) [.streamEnd]
      fun o => ∃ n, o = some n ∧ Shows n (Value.map es).toDoc := by
  have hnode : Takes (node ended true false fuel) (valueTokens false (.map es) ++ [.streamEnd])
      [.streamEnd] (Shows · (Value.map es).toDoc) :=
    takes_value false _ hv hlong (fun h => absurd h Bool.false_ne_true) hfuel
  obtain ⟨x, xs, rfl⟩ := List.exists_cons_of_ne_nil hne
  obtain ⟨fuel, rfl⟩ : ∃ k, fuel = k + 1 := by
    rw [valueTokens_map, List.length_cons] at hfuel
    exact ⟨fuel - 1, by omega⟩
  have hend : Takes (theEnd ended (fuel + 1)) [.streamEnd] [.streamEnd] fun _ => True := by
    rw [theEnd, skipEnds]
    exact Takes.bind (q := fun _ => True) (.peek_bind (.pure trivial)) fun _ _ =>
      .peek_bind (.pure trivial)
  exact .peek_bind (hnode.bind fun n hn => hend.bind fun _ _ => .pure ⟨n, rfl, hn⟩)

/-- **The tokens of a mapping describe a tree that shows it.** -/
theorem ofTokens?_valueTokens (hne : es ≠ []) (hv : (Value.map es).Plain)
    (hlong : (Value.map es).holdsLongInt = false) :
    ∃ n, ofTokens? (valueTokens false (.map es) ++ [.streamEnd]) none = .ok (some n) ∧
      Shows n (Value.map es).toDoc := by
  have hfuel : 3 * (valueTokens false (.map es)).length ≤
      3 * (valueTokens false (.map es) ++ [Token.streamEnd]).length + 10 := by
    rw [List.length_append]
    omega
  have htakes : Takes (document .malformed _) _ [.streamEnd] _ := takes_document hne hv hlong hfuel
  obtain ⟨o, m, hdocument, n, rfl, hn⟩ := htakes ⟨_, 0, commonHandles, []⟩ rfl
  refine ⟨n, ?_, hn⟩
  rw [ofTokens?, Option.getD_none, StateT.run', hdocument]
  rfl

end Node

/-! ### Texts -/

/-- The text of a mapping holds characters that a YAML text may hold. -/
theorem readChars_writeEntries (hne : es ≠ []) (hv : (Value.map es).Plain)
    (hlong : (Value.map es).holdsLongInt = false) (hl : isLegibleEntries 0 es = true) :
    readChars ((writeEntries 0 .empty es).indent 0).written.reverse =
      .ok (Value.map es).toDoc := by
  have hclean := (clean_writeEntries 0 Clean.empty es hv.2).indent 0
  have hallowed : ((writeEntries 0 .empty es).indent 0).written.reverse.all isAllowed = true :=
    List.all_eq_true.2 fun c hc =>
      (Bool.and_eq_true_iff.1 (hclean c (List.mem_reverse.1 hc))).1
  obtain ⟨n, htree, hn⟩ := Node.ofTokens?_valueTokens hne hv hlong
  rw [readChars, hallowed, tokens_writeEntries hne hv.2 hl]
  show (Node.ofTokens? _ none >>= _) = _
  rw [htree]
  exact hn.toDoc_eq

/-- **What is written for a mapping of legible texts is read as its document.** -/
theorem read_write (hne : es ≠ []) (hv : (Value.map es).Plain)
    (hl : (Value.map es).isLegibleDocument = true) (h : write (.map es) = .ok s) :
    read (.ofString s) = .ok (Value.map es).toDoc := by
  rw [write] at h
  split at h
  · cases h
  · next hlong =>
    obtain ⟨x, xs, rfl⟩ := List.exists_cons_of_ne_nil hne
    obtain rfl := Except.ok.inj h
    rw [read, Text.chars?_ofString, Page.text, String.toList_ofList]
    exact readChars_writeEntries hne hv (by simpa using hlong) hl

end Yaml
end WorkflowKit
