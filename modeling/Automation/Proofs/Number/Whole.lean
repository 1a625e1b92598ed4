import Automation.Json.View
import Mathlib.Algebra.Group.Nat.Defs

/-!
Whole numbers up to 2 ^ 53 in magnitude. Binary64 holds each of them exactly, so that a sum, a product or a
quotient of two of them is not rounded if it is one of them itself.
-/
namespace Automation.Binary64

/-- The number is finite and equal to the integer. -/
def IsInt (x : Binary64) (n : Int) : Prop :=
  ∃ f : Finite, x = .finite f ∧ f.toUnits = n * (2 ^ pointBits : Nat)

/-- The integers that binary64 counts through without a gap. -/
def wholeLimit : Nat := 2 ^ 53

private theorem divNearest_of_dvd {n d : Nat} (pos : 0 < d) (h : d ∣ n) : divNearest n d = n / d := by
  have rest : n % d = 0 := Nat.mod_eq_zero_of_dvd h
  simp [divNearest, rest, pos]

/-- What is left of a number when the bits below its first 53 are cut off. -/
private theorem significand_bits {n m : Nat} (split : n = 2 ^ (n.log2 - 52) * m) :
    m < 2 * hiddenBit ∧ (hiddenBit ≤ m ∨ n.log2 - 52 = 0) := by
  have pos : 0 < 2 ^ (n.log2 - 52) := Nat.two_pow_pos _
  rcases Nat.eq_zero_or_pos n with rfl | positive
  · have none : m = 0 := by simpa using split.symm
    subst none
    exact ⟨by decide, .inr (by decide)⟩
  · have above : n < 2 ^ (n.log2 + 1) := Nat.lt_log2_self
    have below : 2 ^ n.log2 ≤ n := Nat.log2_self_le (Nat.ne_of_gt positive)
    by_cases short : n.log2 ≤ 52
    · have unit : n.log2 - 52 = 0 := by omega
      have same : m = n := by simpa [unit] using split.symm
      have top : 2 ^ (n.log2 + 1) ≤ 2 ^ 53 := Nat.pow_le_pow_right (by decide) (by omega)
      exact ⟨by rw [same]; exact Nat.lt_of_lt_of_le above top, .inr unit⟩
    · obtain ⟨k, bit⟩ : ∃ k, n.log2 = k + 52 := ⟨n.log2 - 52, by omega⟩
      rw [bit, Nat.add_sub_cancel] at split pos
      rw [bit] at above below
      have high : 2 ^ (k + 52 + 1) = 2 ^ k * (2 * hiddenBit) := by
        rw [Nat.add_assoc, Nat.pow_add, Nat.pow_succ']
      have low : 2 ^ (k + 52) = 2 ^ k * hiddenBit := Nat.pow_add ..
      rw [high, split] at above
      rw [low, split] at below
      exact ⟨Nat.lt_of_mul_lt_mul_left above, .inl (Nat.le_of_mul_le_mul_left below pos)⟩

/-- A number of units of 53 bits at most, trailing zeros aside, is held as it is. -/
theorem ofUnits_exact {n : Nat} {negative : Bool} (fits : 2 ^ (n.log2 - 52) ∣ n)
    (small : n.log2 - 52 ≤ 2045) :
    ∃ f : Finite, ofUnits negative n 1 = .finite f ∧ f.negative = negative ∧ f.magnitude = n := by
  obtain ⟨m, split⟩ := fits
  have pos : 0 < 2 ^ (n.log2 - 52) := Nat.two_pow_pos _
  have rounded : divNearest n (1 <<< (n.log2 - 52)) = m := by
    rw [Nat.one_shiftLeft, divNearest_of_dvd pos ⟨m, split⟩, Nat.div_eq_of_eq_mul_right pos split]
  have bits := significand_bits split
  have canonical : Canonical m (n.log2 - 52) := ⟨bits.1, small, bits.2⟩
  refine ⟨⟨negative, m, n.log2 - 52, canonical⟩, ?_, rfl, ?_⟩
  · have whole : n / 1 = n := Nat.div_one n
    simp only [ofUnits, whole, rounded, if_neg (Nat.ne_of_lt bits.1), dif_pos canonical]
  · rw [Finite.magnitude, Nat.shiftLeft_eq, Nat.mul_comm, ← split]

private theorem log2_shift {m : Nat} (pos : 0 < m) : (m * 2 ^ pointBits).log2 = m.log2 + pointBits := by
  have nonzero : m ≠ 0 := Nat.ne_of_gt pos
  rw [Nat.log2_eq_iff (Nat.mul_ne_zero nonzero (Nat.ne_of_gt (Nat.two_pow_pos _)))]
  constructor
  · rw [Nat.pow_add]
    exact Nat.mul_le_mul_right _ (Nat.log2_self_le nonzero)
  · rw [show m.log2 + pointBits + 1 = (m.log2 + 1) + pointBits by omega, Nat.pow_add]
    exact Nat.mul_lt_mul_of_pos_right Nat.lt_log2_self (Nat.two_pow_pos _)

/-- Whole numbers up to the limit are held as they are. -/
theorem ofUnits_whole {m : Nat} (negative : Bool) (h : m ≤ wholeLimit) :
    ∃ f : Finite, ofUnits negative (m * 2 ^ pointBits) 1 = .finite f ∧ f.negative = negative ∧
      f.magnitude = m * 2 ^ pointBits := by
  rcases Nat.eq_zero_or_pos m with rfl | pos
  · rw [Nat.zero_mul]
    exact ofUnits_exact (by decide) (by decide)
  · have bound : m.log2 ≤ 53 := (Nat.log2_lt (Nat.ne_of_gt pos)).mpr
      (Nat.lt_of_le_of_lt h (by decide)) |> Nat.le_of_lt_succ
    have bits := log2_shift pos
    have point : pointBits = 1074 := rfl
    refine ofUnits_exact ?_ (by omega)
    rw [bits]
    by_cases top : m = wholeLimit
    · have last : m.log2 = 53 := by
        rw [top]
        exact Nat.log2_two_pow
      rw [last, top, wholeLimit, ← Nat.pow_add]
      exact Nat.pow_dvd_pow 2 (by omega)
    · have short : m.log2 < 53 := (Nat.log2_lt (Nat.ne_of_gt pos)).mpr (Nat.lt_of_le_of_ne h top)
      exact Nat.dvd_trans (Nat.pow_dvd_pow 2 (by omega)) (Nat.dvd_mul_left _ m)

/-- The sign may be that of the integer. A zero has either one. -/
private def Signed (negative : Bool) (n : Int) : Prop := if negative then n ≤ 0 else 0 ≤ n

private theorem Signed.eq {negative : Bool} {n : Int} (h : Signed negative n) :
    n = if negative then -(n.natAbs : Int) else n.natAbs := by
  cases negative <;> simp only [Signed, if_true, if_false, Bool.false_eq_true] at h ⊢ <;> omega

private theorem Signed.mul {s t : Bool} {a b : Int} (h : Signed s a) (h' : Signed t b) :
    Signed (s != t) (a * b) := by
  cases s <;> cases t
  · exact Int.mul_nonneg h h'
  · exact Int.mul_nonpos_of_nonneg_of_nonpos h h'
  · exact Int.mul_nonpos_of_nonpos_of_nonneg h h'
  · exact Int.mul_nonneg_of_nonpos_of_nonpos h h'

/-- A factor has the sign of the product and the other factor. -/
private theorem Signed.of_mul {s t : Bool} {a b : Int} (h : Signed s (a * b)) (h' : Signed t b)
    (nonzero : b ≠ 0) : Signed (s != t) a := by
  have square : 0 < b * b := by
    rcases Int.lt_or_gt_of_ne nonzero with low | high
    · exact Int.mul_pos_of_neg_of_neg low low
    · exact Int.mul_pos high high
  have product := h.mul h'
  rw [Int.mul_assoc] at product
  cases same : s != t <;> rw [same] at product
  · exact Int.nonneg_of_mul_nonneg_left product square
  · exact Int.nonpos_of_mul_nonpos_left product square

/-- A whole number up to the limit, held with its sign. -/
private theorem isInt_signed {negative : Bool} {n : Int} (h : n.natAbs ≤ wholeLimit)
    (sign : Signed negative n) : (ofUnits negative (n.natAbs * 2 ^ pointBits) 1).IsInt n := by
  obtain ⟨f, held, same, magnitude⟩ := ofUnits_whole negative h
  refine ⟨f, held, ?_⟩
  have eq := sign.eq
  rw [Finite.toUnits, same, magnitude, Int.natCast_mul]
  split at eq
  · next minus => rw [if_pos minus, ← Int.neg_mul, ← eq]
  · next plus => rw [if_neg plus, ← eq]

private theorem signed_lt (n : Int) : Signed (n < 0) n := by
  by_cases negative : n < 0
  · simp only [Signed, negative, decide_true, if_true]
    omega
  · simp only [Signed, negative, decide_false, Bool.false_eq_true, if_false]
    omega

/-- A number that is whole has the magnitude and the sign of the integer. -/
private theorem parts_of_toUnits {f : Finite} {n : Int} (h : f.toUnits = n * (2 ^ pointBits : Nat)) :
    f.magnitude = n.natAbs * 2 ^ pointBits ∧ Signed f.negative n := by
  have magnitude : f.magnitude = n.natAbs * 2 ^ pointBits := by
    have same := congrArg Int.natAbs h
    rw [Int.natAbs_mul, Int.natAbs_natCast] at same
    rw [← same, Finite.toUnits]
    split <;> simp
  have point : (2 ^ pointBits : Nat) ≠ (0 : Int) :=
    Int.ne_of_gt (Int.natCast_pos.mpr (Nat.two_pow_pos _))
  refine ⟨magnitude, ?_⟩
  rw [Finite.toUnits, magnitude, Int.natCast_mul] at h
  unfold Signed
  split at h
  · next minus =>
    rw [← Int.neg_mul] at h
    have value : -(n.natAbs : Int) = n := Int.eq_of_mul_eq_mul_right point h
    rw [if_pos minus]
    omega
  · next plus =>
    have value : (n.natAbs : Int) = n := Int.eq_of_mul_eq_mul_right point h
    rw [if_neg plus]
    omega

theorem IsInt.unique {x : Binary64} {m n : Int} (h : x.IsInt m) (h' : x.IsInt n) : m = n := by
  obtain ⟨f, rfl, value⟩ := h
  obtain ⟨_, ⟨⟩, value'⟩ := h'
  have point : (2 ^ pointBits : Nat) ≠ (0 : Int) :=
    Int.ne_of_gt (Int.natCast_pos.mpr (Nat.two_pow_pos _))
  exact Int.eq_of_mul_eq_mul_right point (value.symm.trans value')

theorem isInt_ofInt {n : Int} (h : n.natAbs ≤ wholeLimit) : (ofInt n).IsInt n := by
  rw [ofInt, Nat.shiftLeft_eq]
  exact isInt_signed h (signed_lt n)

theorem isInt_ofNat {n : Nat} (h : n ≤ wholeLimit) : (ofNat n).IsInt n := by
  obtain ⟨f, held, sign, magnitude⟩ := ofUnits_whole false h
  refine ⟨f, by rw [ofNat, Nat.shiftLeft_eq, held], ?_⟩
  rw [Finite.toUnits, sign, magnitude]
  exact Int.natCast_mul ..

private theorem toUnits_zero (negative : Bool) : (Finite.zero negative).toUnits = 0 := by
  cases negative <;> rfl

theorem isInt_zero : zero.IsInt 0 := ⟨.zero false, rfl, by rw [toUnits_zero, Int.zero_mul]⟩

variable {x y : Binary64} {a b : Int}

theorem IsInt.neg (h : x.IsInt a) : x.neg.IsInt (-a) := by
  obtain ⟨f, rfl, value⟩ := h
  refine ⟨f.neg, rfl, ?_⟩
  rw [Int.neg_mul, ← value]
  cases sign : f.negative <;> simp [Finite.toUnits, Finite.neg, Finite.magnitude, sign]

theorem IsInt.add (h : x.IsInt a) (h' : y.IsInt b) (small : (a + b).natAbs ≤ wholeLimit) :
    (x.add y).IsInt (a + b) := by
  obtain ⟨f, rfl, left⟩ := h
  obtain ⟨g, rfl, right⟩ := h'
  have sum : f.toUnits + g.toUnits = (a + b) * (2 ^ pointBits : Nat) := by
    rw [left, right, Int.add_mul]
  have point : (0 : Int) < (2 ^ pointBits : Nat) := Int.natCast_pos.mpr (Nat.two_pow_pos _)
  change (f.add g).IsInt (a + b)
  unfold Finite.add
  rw [sum]
  by_cases none : a + b = 0
  · rw [none, Int.zero_mul]
    exact ⟨_, rfl, by rw [toUnits_zero, Int.zero_mul]⟩
  · have nonzero : (a + b) * (2 ^ pointBits : Nat) ≠ 0 :=
      Int.mul_ne_zero none (Int.ne_of_gt point)
    have sign : (a + b) * (2 ^ pointBits : Nat) < 0 ↔ a + b < 0 := by
      have scaled := Int.mul_lt_mul_right (b := a + b) (c := 0) point
      rwa [Int.zero_mul] at scaled
    simp only [if_neg nonzero, sign, Int.natAbs_mul, Int.natAbs_natCast]
    exact isInt_signed small (signed_lt (a + b))

theorem IsInt.sub (h : x.IsInt a) (h' : y.IsInt b) (small : (a - b).natAbs ≤ wholeLimit) :
    (x.sub y).IsInt (a - b) := h.add h'.neg small

theorem IsInt.isFinite (h : x.IsInt a) : x.isFinite = true := by
  obtain ⟨f, rfl, -⟩ := h
  rfl

private theorem shiftRight_whole (m : Nat) : (m * 2 ^ pointBits) >>> pointBits = m := by
  rw [Nat.shiftRight_eq_div_pow, Nat.mul_div_cancel _ (Nat.two_pow_pos _)]

/-- A whole number is written as an integer. -/
theorem IsInt.ofBinary64 (h : x.IsInt a) (small : a.natAbs < 2 ^ 63) :
    Json.Value.ofBinary64 x = .ofInt a := by
  obtain ⟨f, rfl, value⟩ := h
  obtain ⟨magnitude, sign⟩ := parts_of_toUnits value
  have integral : f.isIntegral = true := by
    rw [Finite.isIntegral, magnitude, Nat.one_shiftLeft, Nat.mul_mod_left]
    rfl
  have truncated : f.truncate = a := by
    rw [Finite.truncate, magnitude, shiftRight_whole]
    exact sign.eq.symm
  have inside : f.truncate.natAbs < 0x8000000000000000 := by rwa [truncated]
  rw [Json.Value.ofBinary64, if_pos ⟨integral, inside⟩, truncated]

/-- A whole number is its own nearest one. -/
theorem IsInt.round (h : x.IsInt a) (small : a.natAbs ≤ wholeLimit) : x.round.IsInt a := by
  obtain ⟨f, rfl, value⟩ := h
  obtain ⟨magnitude, sign⟩ := parts_of_toUnits value
  have half : 2 ^ (pointBits - 1) < 2 ^ pointBits :=
    Nat.pow_lt_pow_right (by decide) (by decide)
  have whole : (f.magnitude + 1 <<< (pointBits - 1)) >>> pointBits = a.natAbs := by
    rw [magnitude, Nat.one_shiftLeft, Nat.shiftRight_eq_div_pow, Nat.mul_comm,
      Nat.mul_add_div (Nat.two_pow_pos _), Nat.div_eq_of_lt half, Nat.add_zero]
  change f.round.IsInt a
  unfold Finite.round
  dsimp only
  rw [whole, Nat.shiftLeft_eq]
  exact isInt_signed small sign

/-- A fraction is rounded in the same way whatever it is expanded by. -/
private theorem divNearest_expanded {c : Nat} (n d : Nat) (pos : 0 < c) :
    divNearest (n * c) (d * c) = divNearest n d := by
  have twice : 2 * (n % d * c) = 2 * (n % d) * c := (Nat.mul_assoc ..).symm
  simp only [divNearest, Nat.mul_div_mul_right _ _ pos, Nat.mul_mod_mul_right, twice,
    Nat.mul_lt_mul_right pos]

private theorem ofUnits_expanded {c : Nat} (negative : Bool) (n : Nat) (pos : 0 < c) :
    ofUnits negative (n * c) c = ofUnits negative n 1 := by
  have scaled (k : Nat) : c <<< k = (1 <<< k) * c := by
    rw [Nat.shiftLeft_eq, Nat.one_shiftLeft, Nat.mul_comm]
  simp only [ofUnits, Nat.mul_div_cancel n pos, Nat.div_one, scaled, divNearest_expanded _ _ pos]

theorem IsInt.mul (h : x.IsInt a) (h' : y.IsInt b) (small : (a * b).natAbs ≤ wholeLimit) :
    (x.mul y).IsInt (a * b) := by
  obtain ⟨f, rfl, left⟩ := h
  obtain ⟨g, rfl, right⟩ := h'
  obtain ⟨first, sign⟩ := parts_of_toUnits left
  obtain ⟨second, sign'⟩ := parts_of_toUnits right
  have product : f.magnitude * g.magnitude = (a * b).natAbs * 2 ^ pointBits * 2 ^ pointBits := by
    rw [first, second, Int.natAbs_mul, Nat.mul_mul_mul_comm, Nat.mul_assoc _ (2 ^ pointBits)]
  change (ofUnits _ _ _).IsInt _
  rw [product, Nat.one_shiftLeft, ofUnits_expanded _ _ (Nat.two_pow_pos _)]
  exact isInt_signed small (sign.mul sign')

/-- A quotient that is whole is not rounded. -/
theorem IsInt.div (h : x.IsInt (a * b)) (h' : y.IsInt b) (nonzero : b ≠ 0)
    (small : a.natAbs ≤ wholeLimit) : (x.div y).IsInt a := by
  obtain ⟨f, rfl, left⟩ := h
  obtain ⟨g, rfl, right⟩ := h'
  obtain ⟨first, sign⟩ := parts_of_toUnits left
  obtain ⟨second, sign'⟩ := parts_of_toUnits right
  have point : 0 < 2 ^ pointBits := Nat.two_pow_pos _
  have some : 0 < b.natAbs * 2 ^ pointBits := Nat.mul_pos (Int.natAbs_pos.mpr nonzero) point
  have apart : g.isZero = false := by
    rw [Finite.isZero, beq_eq_false_iff_ne]
    intro zero
    rw [← second, Finite.magnitude, zero, Nat.zero_shiftLeft] at some
    exact Nat.lt_irrefl 0 some
  have quotient : f.magnitude <<< pointBits = a.natAbs * 2 ^ pointBits * (b.natAbs * 2 ^ pointBits) := by
    rw [first, Nat.shiftLeft_eq, Int.natAbs_mul, Nat.mul_mul_mul_comm, Nat.mul_assoc _ (2 ^ pointBits)]
  simp only [Binary64.div, apart, quotient, second, ofUnits_expanded _ _ some, Bool.false_eq_true,
    if_false]
  exact isInt_signed small (sign.of_mul sign' nonzero)

end Automation.Binary64
