/-! The least number with a property, from a start and within a number of steps. -/

namespace LuauLayout

/-- The least number from `start` on that has the property; the search gives up after `steps`
numbers and takes the next one. -/
def leastFrom (p : Nat → Bool) : Nat → Nat → Nat
  | 0, start => start
  | steps + 1, start => if p start then start else leastFrom p steps (start + 1)

/-- The numbers that the search passes over do not have the property. -/
theorem not_of_lt_leastFrom {p : Nat → Bool} {steps start n : Nat} (h : start ≤ n)
    (hn : n < leastFrom p steps start) : p n = false := by
  induction steps generalizing start with
  | zero => exact absurd hn (Nat.not_lt.2 h)
  | succ steps ih =>
    rw [leastFrom] at hn
    split at hn
    · exact absurd hn (Nat.not_lt.2 h)
    · rename_i hs
      rcases Nat.eq_or_lt_of_le h with rfl | hlt
      · simpa using hs
      · exact ih hlt hn

/-- The number found has the property if one within reach does. -/
theorem apply_leastFrom_eq_true {p : Nat → Bool} {steps start n : Nat} (h : start ≤ n)
    (hn : n ≤ start + steps) (hp : p n = true) : p (leastFrom p steps start) = true := by
  induction steps generalizing start with
  | zero => rwa [show leastFrom p 0 start = n from Nat.le_antisymm h hn]
  | succ steps ih =>
    rw [leastFrom]
    split
    · assumption
    · rename_i hs
      rcases Nat.eq_or_lt_of_le h with rfl | hlt
      · exact absurd hp hs
      · exact ih hlt (by omega)

/-- A search without a bound: from a number it goes on to the next one as long as the property fails,
and it ends at a number that has the property. -/
inductive EndsAt (p : Nat → Bool) : Nat → Nat → Prop
  | found {n : Nat} (h : p n = true) : EndsAt p n n
  | next {n m : Nat} (h : p n = false) (hnext : EndsAt p (n + 1) m) : EndsAt p n m

/-- The search ends where the one with a bound does, if that one finds something. -/
theorem endsAt_leastFrom {p : Nat → Bool} {steps start : Nat}
    (h : p (leastFrom p steps start) = true) : EndsAt p start (leastFrom p steps start) := by
  induction steps generalizing start with
  | zero => exact .found h
  | succ steps ih =>
    rw [leastFrom] at h ⊢
    split
    · rename_i hs
      exact .found hs
    · rename_i hs
      rw [if_neg hs] at h
      exact .next (by simpa using hs) (ih h)

namespace EndsAt

variable {p : Nat → Bool} {start n m : Nat}

theorem apply_eq_true (h : EndsAt p start n) : p n = true := by
  induction h with
  | found hp => exact hp
  | next _ _ ih => exact ih

theorem start_le (h : EndsAt p start n) : start ≤ n := by
  induction h with
  | found _ => exact Nat.le_refl _
  | next _ _ ih => exact Nat.le_of_succ_le ih

/-- The search passes over no number that has the property. -/
theorem le_of_apply (h : EndsAt p start n) (hm : start ≤ m) (hp : p m = true) : n ≤ m := by
  induction h with
  | found _ => exact hm
  | next hfalse _ ih =>
    apply ih
    apply Nat.lt_of_le_of_ne hm
    rintro rfl
    exact Bool.false_ne_true (hfalse.symm.trans hp)

end EndsAt

end LuauLayout
