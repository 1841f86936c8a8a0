/-!
# Expansion budgets

The count of record fields that one parameter may still unfold. A field reserves a unit before it
is classified; the count may fall below zero by reservations that fail, which are not given back.
-/

namespace SignatureForms

/-- The budget of a parameter when nothing else is asked for. -/
def defaultFieldBudget : Int := 200

/-- A count of fields that may still be unfolded. -/
structure Budget where
  /-- The units that are left; negative after a failed reservation. -/
  remaining : Int
deriving DecidableEq, Repr, Inhabited

namespace Budget

/-- Nothing is left. -/
def exhausted (b : Budget) : Bool := b.remaining ≤ 0

/-- The budget with one unit taken. -/
def taken (b : Budget) : Budget := ⟨b.remaining - 1⟩

/-- Takes one unit and tells whether there was one. -/
def reserve (b : Budget) : Bool × Budget := (0 ≤ b.taken.remaining, b.taken)

/-- Gives one unit back. -/
def refund (b : Budget) : Budget := ⟨b.remaining + 1⟩

/-- A mark to which the budget can be set back. -/
def checkpoint (b : Budget) : Int := b.remaining

/-- The budget as it was when the mark was taken. -/
def restore (_ : Budget) (mark : Int) : Budget := ⟨mark⟩

@[simp]
theorem refund_taken (b : Budget) : b.taken.refund = b := by
  simp [taken, refund]

@[simp]
theorem restore_checkpoint (b c : Budget) : c.restore b.checkpoint = b := rfl

theorem reserve_fst_eq_not_exhausted (b : Budget) : b.reserve.1 = !b.exhausted := by
  by_cases h : b.remaining ≤ 0
  · simp [reserve, exhausted, taken, h]
    omega
  · simp [reserve, exhausted, taken, h]
    omega

end Budget

end SignatureForms
