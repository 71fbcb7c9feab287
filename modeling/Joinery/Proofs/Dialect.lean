import Mathlib.Tactic.SplitIfs
import Joinery.Dialect

/-!
# Names of columns

All names of one column share a spelling, `Dialect.columnKey`, so two names are compared by comparing
keys.
-/

namespace Joinery

open Text

namespace Dialect

/-- The spelling that all names of a column share. -/
def columnKey (d : Dialect) (name : String) : String :=
  if d.ignoresColumnCase then asciiLowercase name else name

theorem sameColumn_iff {d : Dialect} {a b : String} :
    d.sameColumn a b = true ↔ d.columnKey a = d.columnKey b := by
  rw [sameColumn, columnKey, columnKey]
  split_ifs <;> exact beq_iff_eq

@[simp] theorem sameColumn_self (d : Dialect) (a : String) : d.sameColumn a a = true :=
  sameColumn_iff.2 rfl

end Dialect

end Joinery
