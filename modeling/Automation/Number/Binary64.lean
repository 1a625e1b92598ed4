/-!
Binary64 numbers in exact integer arithmetic. A finite number is a significand shifted left by a
scale, counted in units of 2 ^ -1074, in its one canonical form. Every operation computes the exact
result and rounds it once, ties to even.
-/
namespace Automation

/-- Number of bits below the binary point of the finest grid. -/
def Binary64.pointBits : Nat := 1074

/-- The leading bit of a significand of 53 bits. -/
abbrev Binary64.hiddenBit : Nat := 0x10000000000000

/-- At most 53 bits, and exactly 53 unless the scale is the smallest one. -/
abbrev Binary64.Canonical (significand scale : Nat) : Prop :=
  significand < 2 * hiddenBit ∧ scale ≤ 2045 ∧ (hiddenBit ≤ significand ∨ scale = 0)

/-- The finite number ± significand · 2 ^ (scale - 1074). -/
structure Binary64.Finite where
  negative : Bool
  significand : Nat
  scale : Nat
  canonical : Binary64.Canonical significand scale
  deriving DecidableEq

inductive Binary64 where
  | nan
  | infinite (negative : Bool)
  | finite (value : Binary64.Finite)
  deriving DecidableEq

namespace Binary64

/-- The integer nearest to `n / d`; a tie goes to the even neighbour. -/
def divNearest (n d : Nat) : Nat :=
  let quotient := n / d
  let twice := 2 * (n % d)
  if twice < d then quotient
  else if d < twice then quotient + 1
  else quotient + quotient % 2

/-- The binary64 number nearest to `n / d` units of 2 ^ -1074. -/
def ofUnits (negative : Bool) (n d : Nat) : Binary64 :=
  let scale := (n / d).log2 - 52
  let rounded := divNearest n (d <<< scale)
  let (significand, scale) :=
    if rounded = 2 * hiddenBit then (hiddenBit, scale + 1)
    else (rounded, scale)
  if h : Canonical significand scale then .finite ⟨negative, significand, scale, h⟩
  else .infinite negative

namespace Finite

/-- Magnitude in units of 2 ^ -1074. -/
def magnitude (x : Finite) : Nat := x.significand <<< x.scale

/-- Exact value in units of 2 ^ -1074. -/
def toUnits (x : Finite) : Int := if x.negative then -(x.magnitude : Int) else x.magnitude

def zero (negative : Bool) : Finite := ⟨negative, 0, 0, by decide⟩

def isZero (x : Finite) : Bool := x.significand == 0

def neg (x : Finite) : Finite := { x with negative := !x.negative }

/-- Equality of values: the two zeros are equal. -/
def sameValue (x y : Finite) : Bool := x.toUnits == y.toUnits

def isIntegral (x : Finite) : Bool := x.magnitude % (1 <<< pointBits) == 0

/-- The value with its fraction cut off. -/
def truncate (x : Finite) : Int :=
  let whole : Nat := x.magnitude >>> pointBits
  if x.negative then -(whole : Int) else whole

/-- The nearest integer; a half goes away from zero and the sign stays. -/
def round (x : Finite) : Binary64 :=
  let whole := (x.magnitude + 1 <<< (pointBits - 1)) >>> pointBits
  ofUnits x.negative (whole <<< pointBits) 1

end Finite

def zero : Binary64 := .finite (.zero false)

/-- The binary64 number nearest to an integer. -/
def ofInt (i : Int) : Binary64 := ofUnits (i < 0) (i.natAbs <<< pointBits) 1

def ofNat (n : Nat) : Binary64 := ofUnits false (n <<< pointBits) 1

/-- The binary64 number nearest to `digits · 10 ^ exponent`. -/
def ofDecimal (negative : Bool) (digits : Nat) (exponent : Int) : Binary64 :=
  if digits = 0 then .finite (.zero negative)
  else if 310 < exponent then .infinite negative
  else
    let length := (Nat.toDigits 10 digits).length
    if exponent + length < -330 then .finite (.zero negative)
    else match exponent with
      | .ofNat e => ofUnits negative ((digits * Nat.pow 10 e) <<< pointBits) 1
      | .negSucc e => ofUnits negative (digits <<< pointBits) (Nat.pow 10 (e + 1))

def isFinite : Binary64 → Bool
  | .finite _ => true
  | _ => false

def neg : Binary64 → Binary64
  | .nan => .nan
  | .infinite s => .infinite !s
  | .finite x => .finite x.neg

/-- The exact sum of two finite numbers, rounded; a zero sum is negative only from two negatives. -/
def Finite.add (x y : Finite) : Binary64 :=
  let sum := x.toUnits + y.toUnits
  if sum = 0 then .finite (.zero (x.negative && y.negative))
  else ofUnits (sum < 0) sum.natAbs 1

def add : Binary64 → Binary64 → Binary64
  | .nan, _ | _, .nan => .nan
  | .infinite s, .infinite t => if s = t then .infinite s else .nan
  | .infinite s, .finite _ | .finite _, .infinite s => .infinite s
  | .finite x, .finite y => x.add y

def sub (x y : Binary64) : Binary64 := x.add y.neg

def mul : Binary64 → Binary64 → Binary64
  | .nan, _ | _, .nan => .nan
  | .infinite s, .infinite t => .infinite (s != t)
  | .infinite s, .finite x | .finite x, .infinite s =>
    if x.isZero then .nan else .infinite (s != x.negative)
  | .finite x, .finite y =>
    ofUnits (x.negative != y.negative) (x.magnitude * y.magnitude) (1 <<< pointBits)

def div : Binary64 → Binary64 → Binary64
  | .nan, _ | _, .nan => .nan
  | .infinite _, .infinite _ => .nan
  | .infinite s, .finite x => .infinite (s != x.negative)
  | .finite x, .infinite s => .finite (.zero (x.negative != s))
  | .finite x, .finite y =>
    if y.isZero then if x.isZero then .nan else .infinite (x.negative != y.negative)
    else ofUnits (x.negative != y.negative) (x.magnitude <<< pointBits) y.magnitude

def round : Binary64 → Binary64
  | .finite x => x.round
  | x => x

/-- Order of two numbers; nothing compares with a NaN. -/
def compare? : Binary64 → Binary64 → Option Ordering
  | .nan, _ | _, .nan => none
  | .infinite s, .infinite t => some (if s = t then .eq else if s then .lt else .gt)
  | .infinite s, .finite _ => some (if s then .lt else .gt)
  | .finite _, .infinite s => some (if s then .gt else .lt)
  | .finite x, .finite y => some (compare x.toUnits y.toUnits)

end Binary64
end Automation
