import CommandConsole.Value

/-!
# Values that can be written

A value is written as its text if no integer in it has too many digits, and otherwise it is not written at all.
-/

namespace CommandConsole.Value

variable {v : Value}

theorem written_eq_ok {t : String} : v.written = .ok t ↔ v.isWritable = true ∧ v.text = t := by
  rw [written]
  split
  · rename_i hwritable
    simp [hwritable]
  · rename_i hwritable
    simp [hwritable]

theorem written_eq_error {f : Fault} : v.written = .error f ↔ v.isWritable = false ∧ f = notWritable := by
  rw [written]
  split
  · rename_i hwritable
    simp [hwritable]
  · rename_i hwritable
    simp [hwritable, eq_comm]

theorem written_ne_ok (h : v.isWritable = false) (t : String) : v.written ≠ .ok t := by
  intro ht
  rw [written_eq_ok, h] at ht
  cases ht.1

theorem isWritable_int (n : Int) : (int n).isWritable = true ↔ n.natAbs < Nat.pow 10 maxDigits := by
  have hbound : leastUnwritten = Nat.pow 10 maxDigits := by unfold leastUnwritten; rfl
  rw [isWritable, decide_eq_true_iff, hbound]

end CommandConsole.Value
