import Automation.Number.Binary64
import Automation.Proofs.Number.Whole
import Mathlib

/-!
The line on which numbers lie, with an end on either side for the infinities. Two numbers compare as their
places do; a NaN has no place and compares with nothing. Rounding an integer to the binary64 number nearest to
it keeps the order, so two integers may fall together but never change sides; it moves an integer of 64 bits
by 2 ^ 10 at most, and one that binary64 holds not at all.
-/
namespace Automation.Binary64

/-- Where a number lies, in units of 2 ^ -1074. -/
def place? : Binary64 → Option (WithBot (WithTop Int))
  | nan => none
  | infinite true => some ⊥
  | infinite false => some ((⊤ : WithTop Int) : WithBot (WithTop Int))
  | finite x => some ((x.toUnits : WithTop Int) : WithBot (WithTop Int))

private theorem compares_finite (x y : Finite) :
    (compare x.toUnits y.toUnits).Compares ((x.toUnits : WithTop Int) : WithBot (WithTop Int))
      ((y.toUnits : WithTop Int) : WithBot (WithTop Int)) := by
  have units := cmp_compares x.toUnits y.toUnits
  rw [cmp_eq_compare] at units
  cases order : compare x.toUnits y.toUnits with
  | lt =>
    rw [order] at units
    exact WithBot.coe_lt_coe.mpr (WithTop.coe_lt_coe.mpr units)
  | eq =>
    rw [order] at units
    exact congrArg _ (congrArg _ units)
  | gt =>
    rw [order] at units
    exact WithBot.coe_lt_coe.mpr (WithTop.coe_lt_coe.mpr units)

/-- Numbers with a place compare as their places do. -/
theorem compare?_places {x y : Binary64} {p q : WithBot (WithTop Int)} (hp : x.place? = some p)
    (hq : y.place? = some q) : ∃ order, x.compare? y = some order ∧ order.Compares p q := by
  cases x with
  | nan => cases hp
  | infinite s =>
    cases y with
    | nan => cases hq
    | infinite t =>
      cases s <;> cases t <;> cases hp <;> cases hq
      · exact ⟨.eq, rfl, rfl⟩
      · exact ⟨.gt, rfl, WithBot.bot_lt_coe _⟩
      · exact ⟨.lt, rfl, WithBot.bot_lt_coe _⟩
      · exact ⟨.eq, rfl, rfl⟩
    | finite y =>
      cases s <;> cases hp <;> cases hq
      · exact ⟨.gt, rfl, WithBot.coe_lt_coe.mpr (WithTop.coe_lt_top _)⟩
      · exact ⟨.lt, rfl, WithBot.bot_lt_coe _⟩
  | finite x =>
    cases y with
    | nan => cases hq
    | infinite t =>
      cases t <;> cases hp <;> cases hq
      · exact ⟨.lt, rfl, WithBot.coe_lt_coe.mpr (WithTop.coe_lt_top _)⟩
      · exact ⟨.gt, rfl, WithBot.bot_lt_coe _⟩
    | finite y =>
      cases hp
      cases hq
      exact ⟨_, rfl, compares_finite x y⟩

/-- Only numbers with a place compare. -/
theorem places_of_compare? {x y : Binary64} {order : Ordering} (h : x.compare? y = some order) :
    ∃ p q, x.place? = some p ∧ y.place? = some q := by
  have placed (z : Binary64) (number : z ≠ nan) : ∃ p, z.place? = some p := by
    cases z with
    | nan => exact absurd rfl number
    | infinite s => cases s <;> exact ⟨_, rfl⟩
    | finite z => exact ⟨_, rfl⟩
  obtain ⟨p, hp⟩ := placed x (by rintro rfl; cases h)
  obtain ⟨q, hq⟩ := placed y (by rintro rfl; cases x <;> cases h)
  exact ⟨p, q, hp, hq⟩

/-- The distance of a rounded quotient is half the divisor at most. -/
theorem divNearest_bounds {n d : Nat} (pos : 0 < d) :
    2 * (divNearest n d * d) ≤ 2 * n + d ∧ 2 * n ≤ 2 * (divNearest n d * d) + d := by
  have split : n / d * d + n % d = n := by rw [Nat.mul_comm, Nat.div_add_mod]
  have small : n % d < d := Nat.mod_lt n pos
  have next : (n / d + 1) * d = n / d * d + d := by rw [Nat.add_mul, Nat.one_mul]
  unfold divNearest
  by_cases below : 2 * (n % d) < d
  · simp only [if_pos below]
    omega
  · by_cases above : d < 2 * (n % d)
    · simp only [if_neg below, if_pos above, next]
      omega
    · simp only [if_neg below, if_neg above]
      rcases Nat.mod_two_eq_zero_or_one (n / d) with even | odd
      · rw [even, Nat.add_zero]
        omega
      · rw [odd, next]
        omega

theorem divNearest_mono {n m d : Nat} (pos : 0 < d) (h : n ≤ m) : divNearest n d ≤ divNearest m d := by
  rcases Nat.eq_or_lt_of_le h with rfl | less
  · exact Nat.le_refl _
  · by_contra larger
    have apart : (divNearest m d + 1) * d ≤ divNearest n d * d :=
      Nat.mul_le_mul_right d (Nat.lt_of_not_le larger)
    rw [Nat.add_mul, Nat.one_mul] at apart
    have low := (divNearest_bounds (n := n) pos).1
    have high := (divNearest_bounds (n := m) pos).2
    omega

theorem divNearest_mul {q d : Nat} (pos : 0 < d) : divNearest (q * d) d = q := by
  simp [divNearest, pos]

/-- How far apart numbers of 53 bits lie around `n`. -/
def spacing (n : Nat) : Nat := 2 ^ (n.log2 - 52)

/-- The number of 53 bits nearest to `n`. -/
def rounded (n : Nat) : Nat := divNearest n (spacing n) * spacing n

/-- The least magnitude beyond the range, in units of 2 ^ -1074. -/
def beyond : Nat := hiddenBit * 2 ^ (2045 + 1)

private theorem double_hiddenBit (k : Nat) : 2 * hiddenBit * 2 ^ k = hiddenBit * 2 ^ (k + 1) := by
  rw [Nat.pow_succ']
  ring

private theorem hiddenBit_mul_lt (k l : Nat) : hiddenBit * 2 ^ k < hiddenBit * 2 ^ l ↔ k < l :=
  (Nat.mul_lt_mul_left (by decide)).trans (Nat.pow_lt_pow_iff_right (by decide))

private theorem lt_beyond (k : Nat) : hiddenBit * 2 ^ k < beyond ↔ k ≤ 2045 := by
  unfold beyond
  exact (hiddenBit_mul_lt k (2045 + 1)).trans Nat.lt_succ_iff

private theorem le_beyond {k : Nat} (h : k ≤ 2045) : hiddenBit * 2 ^ (k + 1) ≤ beyond := by
  unfold beyond
  have order := (hiddenBit_mul_lt (2045 + 1) (k + 1)).not
  exact Nat.le_of_not_lt (order.mpr (by omega))

theorem spacing_pos (n : Nat) : 0 < spacing n := Nat.two_pow_pos _

theorem spacing_mono {n m : Nat} (h : n ≤ m) : spacing n ≤ spacing m := by
  have bits : n.log2 ≤ m.log2 := by
    rw [Nat.log2_eq_log_two, Nat.log2_eq_log_two]
    exact Nat.log_mono_right h
  exact Nat.pow_le_pow_right (by decide) (Nat.sub_le_sub_right bits 52)

private theorem log2_le_of_lt {n k : Nat} (h : n < 2 ^ (53 + k)) : n.log2 - 52 ≤ k := by
  rcases Nat.eq_zero_or_pos n with rfl | pos
  · rw [Nat.log2_zero]
    omega
  · have bits : n.log2 < 53 + k := (Nat.log2_lt (Nat.ne_of_gt pos)).mpr h
    omega

/-- Every number lies below the end of the 53 bits that are kept of it. -/
theorem lt_spacing (n : Nat) : n < 2 * hiddenBit * spacing n := by
  have top : n < 2 ^ (n.log2 + 1) := Nat.lt_log2_self
  have bits : 2 * hiddenBit * spacing n = 2 ^ (53 + (n.log2 - 52)) := by
    rw [Nat.pow_add]
    rfl
  rw [bits]
  exact Nat.lt_of_lt_of_le top (Nat.pow_le_pow_right (by decide) (by omega))

/-- Where the spacing is more than one, the leading bit counts. -/
theorem spacing_le {n : Nat} (wide : 52 < n.log2) : hiddenBit * spacing n ≤ n := by
  have low : 2 ^ n.log2 ≤ n := Nat.log2_self_le (by rintro rfl; exact absurd wide (by decide))
  have bits : hiddenBit * spacing n = 2 ^ (52 + (n.log2 - 52)) := by
    rw [Nat.pow_add]
    rfl
  rw [bits]
  exact Nat.le_trans (Nat.pow_le_pow_right (by decide) (by omega)) low

theorem divNearest_spacing_le (n : Nat) : divNearest n (spacing n) ≤ 2 * hiddenBit := by
  have bound := divNearest_mono (spacing_pos n) (Nat.le_of_lt (lt_spacing n))
  rwa [divNearest_mul (spacing_pos n)] at bound

theorem le_divNearest_spacing {n : Nat} (wide : 52 < n.log2) : hiddenBit ≤ divNearest n (spacing n) := by
  have bound := divNearest_mono (spacing_pos n) (spacing_le wide)
  rwa [divNearest_mul (spacing_pos n)] at bound

/-- Below the next power of two the numbers have one spacing, and none is rounded past that power. -/
theorem rounded_mono {n m : Nat} (h : n ≤ m) : rounded n ≤ rounded m := by
  rcases Nat.eq_or_lt_of_le (spacing_mono h) with same | wider
  · unfold rounded
    rw [same]
    exact Nat.mul_le_mul_right _ (divNearest_mono (spacing_pos m) h)
  · have order : n.log2 - 52 < m.log2 - 52 := (Nat.pow_lt_pow_iff_right (by decide)).mp wider
    have double : 2 * spacing n ≤ spacing m := by
      rw [spacing, ← Nat.pow_succ']
      exact Nat.pow_le_pow_right (by decide) order
    calc rounded n ≤ 2 * hiddenBit * spacing n := Nat.mul_le_mul_right _ (divNearest_spacing_le n)
      _ = hiddenBit * (2 * spacing n) := by ring
      _ ≤ hiddenBit * spacing m := Nat.mul_le_mul_left _ double
      _ ≤ rounded m := Nat.mul_le_mul_right _ (le_divNearest_spacing (by omega))

theorem rounded_bounds (n : Nat) :
    2 * rounded n ≤ 2 * n + spacing n ∧ 2 * n ≤ 2 * rounded n + spacing n :=
  divNearest_bounds (spacing_pos n)

/-- A number of units is held as its rounding, unless that lies beyond the range. -/
theorem ofUnits_rounded (negative : Bool) (n : Nat) :
    (rounded n < beyond ∧
      ∃ f : Finite, ofUnits negative n 1 = .finite f ∧ f.negative = negative ∧ f.magnitude = rounded n) ∨
    (beyond ≤ rounded n ∧ ofUnits negative n 1 = .infinite negative) := by
  have whole : n / 1 = n := Nat.div_one n
  have unit : 1 <<< (n.log2 - 52) = spacing n := Nat.one_shiftLeft _
  have top : divNearest n (spacing n) ≤ 2 * hiddenBit := divNearest_spacing_le n
  simp only [ofUnits, whole, unit]
  by_cases full : divNearest n (spacing n) = 2 * hiddenBit
  · -- the rounding is a power of two, which is one bit longer than it may be
    have value : rounded n = hiddenBit * 2 ^ (n.log2 - 52 + 1) := by
      rw [rounded, full, spacing, double_hiddenBit]
    simp only [if_pos full]
    by_cases inside : n.log2 - 52 + 1 ≤ 2045
    · have canonical : Canonical hiddenBit (n.log2 - 52 + 1) := ⟨by decide, inside, .inl (Nat.le_refl _)⟩
      refine .inl ⟨?_, _, by rw [dif_pos canonical], rfl, ?_⟩
      · rw [value]
        exact (lt_beyond _).mpr inside
      · rw [Finite.magnitude, Nat.shiftLeft_eq, value]
    · refine .inr ⟨?_, dif_neg fun canonical => inside canonical.2.1⟩
      rw [value]
      exact Nat.le_of_not_lt fun less => inside ((lt_beyond _).mp less)
  · simp only [if_neg full]
    have short : divNearest n (spacing n) < 2 * hiddenBit := Nat.lt_of_le_of_ne top full
    by_cases inside : n.log2 - 52 ≤ 2045
    · have normal : hiddenBit ≤ divNearest n (spacing n) ∨ n.log2 - 52 = 0 := by
        by_cases wide : 52 < n.log2
        · exact .inl (le_divNearest_spacing wide)
        · exact .inr (by omega)
      have canonical : Canonical (divNearest n (spacing n)) (n.log2 - 52) := ⟨short, inside, normal⟩
      refine .inl ⟨?_, _, by rw [dif_pos canonical], rfl, ?_⟩
      · calc rounded n < 2 * hiddenBit * spacing n := Nat.mul_lt_mul_of_pos_right short (spacing_pos n)
          _ = hiddenBit * 2 ^ (n.log2 - 52 + 1) := double_hiddenBit _
          _ ≤ beyond := le_beyond inside
      · rw [Finite.magnitude, Nat.shiftLeft_eq]
        rfl
    · refine .inr ⟨?_, dif_neg fun canonical => inside canonical.2.1⟩
      calc beyond ≤ hiddenBit * spacing n :=
            Nat.le_of_not_lt fun less => inside ((lt_beyond _).mp less)
        _ ≤ rounded n := Nat.mul_le_mul_right _ (le_divNearest_spacing (by omega))

/-- What lies beyond the range goes to the ends of the line. -/
def clip (p : Int) : WithBot (WithTop Int) :=
  if p ≤ -beyond then ⊥
  else if beyond ≤ p then ((⊤ : WithTop Int) : WithBot (WithTop Int))
  else ((p : WithTop Int) : WithBot (WithTop Int))

/-- The number of 53 bits nearest to an integer, in units of 2 ^ -1074. -/
def nearest (i : Int) : Int :=
  if i < 0 then -(rounded (i.natAbs * 2 ^ pointBits) : Int) else rounded (i.natAbs * 2 ^ pointBits)

/-- The units of an integer have its sign. -/
private theorem units_eq (i : Int) : i * (2 ^ pointBits : Nat) =
    if i < 0 then -((i.natAbs * 2 ^ pointBits : Nat) : Int) else (i.natAbs * 2 ^ pointBits : Nat) := by
  rw [Int.natCast_mul]
  split_ifs with negative
  · rw [← Int.neg_mul]
    congr 1
    omega
  · congr 1
    omega

/-- Where the binary64 number nearest to an integer lies. -/
def intPlace (i : Int) : WithBot (WithTop Int) := clip (nearest i)

theorem beyond_pos : 0 < beyond :=
  Nat.lt_of_le_of_lt (Nat.zero_le _) ((lt_beyond 0).mpr (Nat.zero_le _))

theorem clip_of_inside {p : Int} (low : -(beyond : Int) < p) (high : p < beyond) :
    clip p = ((p : WithTop Int) : WithBot (WithTop Int)) := by
  rw [clip, if_neg (by omega), if_neg (by omega)]

theorem clip_mono {p q : Int} (h : p ≤ q) : clip p ≤ clip q := by
  have positive := beyond_pos
  unfold clip
  by_cases low : p ≤ -beyond
  · rw [if_pos low]
    exact bot_le
  · by_cases high : beyond ≤ q
    · rw [if_neg (show ¬ q ≤ -beyond by omega), if_pos high]
      split_ifs
      · exact le_rfl
      · exact WithBot.coe_le_coe.mpr le_top
    · rw [if_neg low, if_neg (show ¬ beyond ≤ p by omega), if_neg (show ¬ q ≤ -beyond by omega),
        if_neg high]
      exact WithBot.coe_le_coe.mpr (WithTop.coe_le_coe.mpr h)

theorem nearest_mono {i j : Int} (h : i ≤ j) : nearest i ≤ nearest j := by
  unfold nearest
  by_cases below : j < 0
  · have order : rounded (j.natAbs * 2 ^ pointBits) ≤ rounded (i.natAbs * 2 ^ pointBits) :=
      rounded_mono (Nat.mul_le_mul_right _ (by omega))
    rw [if_pos (show i < 0 by omega), if_pos below]
    omega
  · by_cases across : i < 0
    · rw [if_pos across, if_neg below]
      omega
    · have order : rounded (i.natAbs * 2 ^ pointBits) ≤ rounded (j.natAbs * 2 ^ pointBits) :=
        rounded_mono (Nat.mul_le_mul_right _ (by omega))
      rw [if_neg across, if_neg below]
      omega

theorem intPlace_mono {i j : Int} (h : i ≤ j) : intPlace i ≤ intPlace j := clip_mono (nearest_mono h)

theorem place?_ofInt (i : Int) : (ofInt i).place? = some (intPlace i) := by
  have positive := beyond_pos
  unfold ofInt
  rw [Nat.shiftLeft_eq]
  rcases ofUnits_rounded (i < 0) (i.natAbs * 2 ^ pointBits) with
    ⟨inside, f, held, sign, magnitude⟩ | ⟨outside, held⟩
  · have value : f.toUnits = nearest i := by
      rw [Finite.toUnits, sign, magnitude, nearest]
      simp only [decide_eq_true_eq]
    have bounds : -(beyond : Int) < nearest i ∧ nearest i < beyond := by
      unfold nearest
      split_ifs <;> omega
    rw [held, place?, value, intPlace, clip_of_inside bounds.1 bounds.2]
  · rw [held, intPlace, clip, nearest]
    by_cases negative : i < 0
    · rw [if_pos negative, if_pos (by omega), decide_eq_true negative]
      rfl
    · rw [if_neg negative, if_neg (by omega), if_pos (by omega), decide_eq_false negative]
      rfl

/-- Some binary64 number is equal to the integer. -/
def Held (i : Int) : Prop := ∃ x : Finite, x.toUnits = i * (2 ^ pointBits : Nat)

theorem held_of_natAbs_le {i : Int} (h : i.natAbs ≤ wholeLimit) : Held i := by
  obtain ⟨x, -, value⟩ := isInt_ofInt h
  exact ⟨x, value⟩

private theorem natAbs_toUnits (x : Finite) : x.toUnits.natAbs = x.magnitude := by
  unfold Finite.toUnits
  split_ifs <;> simp

/-- A magnitude that is held has no more than 53 bits, trailing zeros aside. -/
theorem rounded_magnitude (x : Finite) : rounded x.magnitude = x.magnitude ∧ x.magnitude < beyond := by
  obtain ⟨negative, m, k, short, range, -⟩ := x
  simp only [Finite.magnitude, Nat.shiftLeft_eq]
  have size : m * 2 ^ k < 2 ^ (53 + k) := by
    rw [Nat.pow_add]
    exact Nat.mul_lt_mul_of_pos_right short (Nat.two_pow_pos k)
  constructor
  · have fits : spacing (m * 2 ^ k) ∣ m * 2 ^ k :=
      Nat.dvd_trans (Nat.pow_dvd_pow 2 (log2_le_of_lt size)) (Nat.dvd_mul_left _ m)
    obtain ⟨q, split⟩ := fits
    have kept := divNearest_mul (q := q) (spacing_pos (m * 2 ^ k))
    rw [Nat.mul_comm q, ← split] at kept
    rw [rounded, kept, Nat.mul_comm q, ← split]
  · calc m * 2 ^ k < 2 * hiddenBit * 2 ^ k := Nat.mul_lt_mul_of_pos_right short (Nat.two_pow_pos k)
      _ = hiddenBit * 2 ^ (k + 1) := double_hiddenBit k
      _ ≤ beyond := le_beyond range

/-- An integer that binary64 holds lies at its own place. -/
theorem intPlace_of_held {i : Int} (held : Held i) :
    intPlace i = ((i * (2 ^ pointBits : Nat) : Int) : WithTop Int) := by
  obtain ⟨x, value⟩ := held
  have fits := rounded_magnitude x
  have units : i.natAbs * 2 ^ pointBits = x.magnitude := by
    rw [← natAbs_toUnits, value, Int.natAbs_mul, Int.natAbs_natCast]
  have kept : nearest i = i * (2 ^ pointBits : Nat) := by
    rw [units_eq, nearest, units, fits.1]
  have bound : (i * (2 ^ pointBits : Nat)).natAbs < beyond := by
    rw [Int.natAbs_mul, Int.natAbs_natCast, units]
    exact fits.2
  rw [intPlace, kept, clip_of_inside (by omega) (by omega)]

theorem units_pos : (0 : Int) < (2 ^ pointBits : Nat) := Int.natCast_pos.mpr (Nat.two_pow_pos _)

theorem eq_of_held {i j : Int} (held : Held i) (held' : Held j)
    (same : intPlace i = intPlace j) : i = j := by
  rw [intPlace_of_held held, intPlace_of_held held', WithBot.coe_inj, WithTop.coe_inj] at same
  exact Int.eq_of_mul_eq_mul_right units_pos.ne' same

theorem intPlace_lt_of_held {i j : Int} (held : Held i) (held' : Held j) (less : i < j) :
    intPlace i < intPlace j := by
  rw [intPlace_of_held held, intPlace_of_held held', WithBot.coe_lt_coe, WithTop.coe_lt_coe]
  exact Int.mul_lt_mul_of_pos_right less units_pos

/-- An integer below 2 ^ 53 in magnitude shares its place with no other. -/
theorem eq_of_small {i j : Int} (small : i.natAbs < wholeLimit) (same : intPlace i = intPlace j) :
    i = j := by
  have limit : (wholeLimit : Int).natAbs ≤ wholeLimit := le_of_eq (Int.natAbs_natCast _)
  have held : Held i := held_of_natAbs_le (Nat.le_of_lt small)
  by_cases inside : j.natAbs ≤ wholeLimit
  · exact eq_of_held held (held_of_natAbs_le inside) same
  · exfalso
    rcases Int.le_total 0 j with above | below
    · have end_held : Held wholeLimit := held_of_natAbs_le limit
      have less := intPlace_lt_of_held held end_held (by omega)
      exact (lt_of_lt_of_le less (intPlace_mono (by omega))).ne same
    · have end_held : Held (-wholeLimit) := held_of_natAbs_le (by rw [Int.natAbs_neg]; exact limit)
      have less := intPlace_lt_of_held end_held held (by omega)
      exact (lt_of_le_of_lt (intPlace_mono (by omega)) less).ne same.symm

private theorem rounded_scaled {m p : Nat} (h : m < 2 ^ 64) :
    rounded (m * 2 ^ p) ≤ m * 2 ^ p + 2 ^ 10 * 2 ^ p ∧
      m * 2 ^ p ≤ rounded (m * 2 ^ p) + 2 ^ 10 * 2 ^ p := by
  have size : m * 2 ^ p < 2 ^ (53 + (11 + p)) := by
    rw [← Nat.add_assoc, Nat.pow_add]
    exact Nat.mul_lt_mul_of_pos_right h (Nat.two_pow_pos p)
  have gap : spacing (m * 2 ^ p) ≤ 2 * (2 ^ 10 * 2 ^ p) := by
    have bits : spacing (m * 2 ^ p) ≤ 2 ^ (11 + p) :=
      Nat.pow_le_pow_right (by decide) (log2_le_of_lt size)
    rwa [Nat.pow_add, Nat.pow_succ' (n := 10), Nat.mul_assoc] at bits
  have near := rounded_bounds (m * 2 ^ p)
  omega

private theorem scaled_lt_beyond {m p : Nat} (h : m < 2 ^ 65) (small : p ≤ 2000) :
    m * 2 ^ p < beyond := by
  have bits : 2 ^ 65 * 2 ^ p = hiddenBit * 2 ^ (13 + p) := by
    rw [Nat.pow_add 2 13 p, ← Nat.mul_assoc]
    rfl
  calc m * 2 ^ p ≤ 2 ^ 65 * 2 ^ p := Nat.mul_le_mul_right _ (Nat.le_of_lt h)
    _ = hiddenBit * 2 ^ (13 + p) := bits
    _ < beyond := (lt_beyond _).mpr (by omega)

/-- An integer of 64 bits is moved by 2 ^ 10 at most, and never beyond the range. -/
theorem nearest_bounds {i : Int} (h : i.natAbs < 2 ^ 64) :
    (nearest i - i * (2 ^ pointBits : Nat)).natAbs ≤ 2 ^ 10 * 2 ^ pointBits ∧
      (nearest i).natAbs < beyond := by
  have near := rounded_scaled (p := pointBits) h
  have far : (i.natAbs + 2 ^ 10) * 2 ^ pointBits < beyond :=
    scaled_lt_beyond (by omega) (by decide)
  rw [Nat.add_mul] at far
  rw [units_eq]
  unfold nearest
  generalize rounded (i.natAbs * 2 ^ pointBits) = r at near
  generalize i.natAbs * 2 ^ pointBits = n at near far
  generalize 2 ^ 10 * 2 ^ pointBits = g at near far
  split_ifs <;> omega

/-- Integers of 64 bits more than 2 ^ 11 apart keep apart. -/
theorem intPlace_ne_of_far {i j : Int} (h : i.natAbs < 2 ^ 64) (h' : j.natAbs < 2 ^ 64)
    (far : 2 ^ 11 < (i - j).natAbs) : intPlace i ≠ intPlace j := by
  have near := nearest_bounds h
  have near' := nearest_bounds h'
  intro same
  have equal : nearest i = nearest j := by
    unfold intPlace at same
    rw [clip_of_inside (by omega) (by omega), clip_of_inside (by omega) (by omega)] at same
    exact WithTop.coe_inj.mp (WithBot.coe_inj.mp same)
  have distance : (i - j).natAbs * 2 ^ pointBits ≤ 2 ^ 11 * 2 ^ pointBits := by
    have scaled : ((i - j) * (2 ^ pointBits : Nat)).natAbs = (i - j).natAbs * 2 ^ pointBits := by
      rw [Int.natAbs_mul, Int.natAbs_natCast]
    rw [← scaled, Int.sub_mul, Nat.pow_succ' (n := 10), Nat.mul_assoc]
    omega
  exact absurd (Nat.le_of_mul_le_mul_right distance (Nat.two_pow_pos _)) (Nat.not_le_of_lt far)

end Automation.Binary64
