/-
# Runs of digits

Digits that stand in a row in a text.  If no row is longer than an integer may be, every integer
that is cut out of the text may be read.
-/

import WorkflowKit.Number.Decimal

namespace WorkflowKit
namespace Number

/-- No row of digits is longer than an integer may be. -/
def ShortRuns (cs : List Char) : Prop :=
  ∀ ds, ds <:+: cs → (∀ d ∈ ds, d.isDigit = true) → ds.length ≤ digitLimit

variable {cs ds : List Char}

theorem ShortRuns.of_infix (h : ShortRuns cs) (hds : ds <:+: cs) : ShortRuns ds :=
  fun es hes => h es (hes.trans hds)

/-- The digits at the start of a text. -/
theorem ShortRuns.length_takeWhile_le (h : ShortRuns cs) :
    (cs.takeWhile Char.isDigit).length ≤ digitLimit :=
  h _ (List.takeWhile_prefix _).isInfix fun d hd =>
    List.all_eq_true.1 List.all_takeWhile d hd

theorem readDigits_eq_ok (h : cs.length ≤ digitLimit) : readDigits cs = .ok (digitsValue 10 cs) :=
  if_neg (Nat.not_lt.2 h)

end Number
end WorkflowKit
