import Cascade.Proofs.Rule.Conditions
import Cascade.Proofs.Rule.Patterns

/-!
# The patterns of rules that have been read

`literalPatterns` lists the patterns in the text of a rule file; this file is about those in the
rules that were read.  The reader of conditions checks every comparison by pattern whose right
operand is written out, so whatever reading keeps, in either mode, has a pattern that can be used
(`isChecked_of_mem_readRules`).
-/

namespace Cascade

/-- A pattern that is written out on the right of a comparison by pattern can be used. -/
def Condition.IsChecked (c : Condition) : Prop :=
  c.comparison.takesPattern = true → ∀ pattern, c.right = .literal pattern → IsUsable pattern

lemma isUsable_of_checkRight {r : Reading} {text : List Char} {comparison : Comparison}
    {pattern : String} (h : (checkRight r text comparison (.literal pattern)).result = .ok ())
    (hcomparison : comparison.takesPattern = true) : IsUsable pattern := by
  rw [checkRight, if_pos hcomparison] at h
  exact (checks_checkPattern text pattern).usable () h pattern List.mem_cons_self

/-- A condition that has been read is checked. -/
lemma Condition.IsRead.isChecked {strict : Bool} {c : Condition} (h : c.IsRead strict) :
    c.IsChecked := by
  obtain ⟨r, depth, piece, -, hread⟩ := h
  obtain ⟨m, left, right, -, -, -, -, -, hcheck, rfl⟩ := readConditionWith_eq_some hread
  rintro hcomparison pattern rfl
  exact isUsable_of_checkRight hcheck hcomparison

/-- The patterns that are written out in rules that have been read can be used, in either mode and
at any depth of selectors. -/
lemma isChecked_of_mem_readRules {strict : Bool} {text : String} {rules : List Rule}
    (h : (readRules strict text).result = .ok rules) {rule : Rule} (hrule : rule ∈ rules)
    {c : Condition} (hc : c ∈ rule.conditions) : c.IsChecked :=
  (isRead_of_mem_readRules h hrule hc).isChecked

end Cascade
