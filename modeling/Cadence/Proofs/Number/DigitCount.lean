import Cadence.Number.Integer

/-!
# How many digits a number has

A number that is read from so many digits is written with no more of them, whatever
zeros, signs, scripts and underscores it was read from.
-/

namespace Cadence
namespace Number

open Text

theorem digitValue?_lt_ten
    {character : Char}
    {value : Nat}
    (digit : digitValue? character = some value) : value < 10 := by
  unfold digitValue? at digit
  split at digit
  · next isDigit =>
      have bounds : 48 ≤ character.toNat ∧ character.toNat ≤ 57 := by
        simpa [Char.isDigit, UInt32.le_iff_toNat_le] using isDigit
      cases digit
      change character.toNat - 48 < 10
      omega
  · split at digit
    · cases digit
    · obtain ⟨start, found, rfl⟩ := Option.map_eq_some_iff.mp digit
      have within := List.find?_some found
      simp only [decide_eq_true_eq] at within
      omega

/-- Further digits keep a number below the power of ten of their count. -/
theorem readDigits_lt
    {text : List Char}
    {spelled count number total : Nat}
    (below : spelled < Nat.pow 10 count)
    (read : readDigits spelled count text = some (number, total)) :
    number < Nat.pow 10 total := by
  have oneMore {spelled count value : Nat} (below : spelled < Nat.pow 10 count)
      (small : value < 10) : 10 * spelled + value < Nat.pow 10 (count + 1) := by
    rw [Nat.pow_eq, Nat.pow_succ, ← Nat.pow_eq]
    omega
  fun_induction readDigits spelled count text with
  | case1 spelled count =>
      cases read
      exact below
  | case2 spelled count digit rest value isDigit hypothesis =>
      exact hypothesis (oneMore below (digitValue?_lt_ten isDigit)) read
  | case3 => cases read
  | case4 spelled count digit rest _ value isDigit hypothesis =>
      exact hypothesis (oneMore below (digitValue?_lt_ten isDigit)) read
  | case5 => cases read

/-- A number below a power of ten has at most as many digits. -/
theorem length_naturalDigits_le
    {number count limit : Nat}
    (below : number < Nat.pow 10 count)
    (short : count ≤ limit)
    (positive : 0 < limit) :
    (naturalDigits number).length ≤ limit := by
  rw [naturalDigits, Nat.length_toDigits_le_iff (by decide) positive]
  exact Nat.lt_of_lt_of_le below (Nat.pow_le_pow_right (by decide) short)

/-- A number is read from no more digits than the limit allows, so it is written with no
more. -/
theorem length_naturalDigits_of_readNatural?
    {text : List Char}
    {number : Nat}
    (read : readNatural? text = some number) :
    (naturalDigits number).length ≤ digitLimit := by
  unfold readNatural? at read
  split at read
  · cases read
  · next digit rest =>
      split at read
      · cases read
      · next value isDigit =>
          split at read
          · next result total spelled =>
              split at read
              · next short =>
                  cases read
                  have below : value < Nat.pow 10 1 := digitValue?_lt_ten isDigit
                  exact length_naturalDigits_le (readDigits_lt below spelled) short
                    (by decide)
              · cases read
          · cases read

/-- A whole number is read from the digits of its size. -/
theorem exists_readNatural?_of_readInteger?
    {text : List Char}
    {number : Int}
    (read : readInteger? text = some number) :
    ∃ digits, readNatural? digits = some number.natAbs := by
  unfold readInteger? readSigned? at read
  split at read
  · obtain ⟨natural, digitsRead, rfl⟩ := Option.map_eq_some_iff.mp read
    rw [Int.natAbs_neg, Int.natAbs_natCast]
    exact ⟨_, digitsRead⟩
  · obtain ⟨natural, digitsRead, rfl⟩ := Option.map_eq_some_iff.mp read
    exact ⟨_, digitsRead⟩
  · obtain ⟨natural, digitsRead, rfl⟩ := Option.map_eq_some_iff.mp read
    exact ⟨_, digitsRead⟩

theorem length_naturalDigits_of_readInteger?
    {text : List Char}
    {number : Int}
    (read : readInteger? text = some number) :
    (naturalDigits number.natAbs).length ≤ digitLimit := by
  obtain ⟨digits, digitsRead⟩ := exists_readNatural?_of_readInteger? read
  exact length_naturalDigits_of_readNatural? digitsRead

/-- A number below a hundred is short enough to be read. -/
theorem length_naturalDigits_of_lt
    {number : Nat}
    (small : number < 100) :
    (naturalDigits number).length ≤ digitLimit :=
  length_naturalDigits_le (show number < Nat.pow 10 2 from small) (by decide) (by decide)

/-! ## Too many digits -/

/-- The least number with more than so many digits. -/
def leastBeyond (limit : Nat) : Nat :=
  Nat.pow 10 limit

theorem leastBeyond_pos (limit : Nat) : 0 < leastBeyond limit :=
  Nat.pow_pos (by decide)

theorem lt_length_naturalDigits_iff
    {number limit : Nat}
    (positive : 0 < limit) :
    limit < (naturalDigits number).length ↔ leastBeyond limit ≤ number := by
  rw [← Nat.not_le, naturalDigits, Nat.length_toDigits_le_iff (by decide) positive, Nat.not_lt]
  rfl

/-- A whole number cannot be written when its size has too many digits. -/
theorem isWritable_eq_false_iff {number : Int} :
    isWritable number = false ↔ leastBeyond digitLimit ≤ number.natAbs := by
  rw [isWritable, decide_eq_false_iff_not, Nat.not_le]
  exact lt_length_naturalDigits_iff (by decide)

end Number
end Cadence
