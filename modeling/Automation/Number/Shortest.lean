import Automation.Number.Binary64

/-!
The shortest decimal digits that read back as a given binary64 number, and of those the nearest.
-/
namespace Automation

/-- The number `digits · 10 ^ exponent`. -/
structure Decimal where
  digits : Nat
  exponent : Int
  deriving DecidableEq, Repr

namespace Binary64.Finite

/-- The half-open neighbourhood that rounds to a number, in quarters of a unit: the least and the
greatest magnitude, and whether both ends belong to it. -/
structure Interval where
  low : Nat
  value : Nat
  high : Nat
  closed : Bool

/-- All magnitudes in it round to `x`; below a power of two the grid is twice as fine. -/
def interval (x : Finite) : Interval :=
  let below := if x.significand = Binary64.hiddenBit ∧ 0 < x.scale then 1 else 2
  { low := (4 * x.significand - below) <<< x.scale
    value := (4 * x.significand) <<< x.scale
    high := (4 * x.significand + 2) <<< x.scale
    closed := x.significand % 2 == 0 }

/-- Exponent of the leading decimal digit of a positive number. -/
def leadingExponent (x : Finite) : Int :=
  ((Nat.toDigits 10 ((x.magnitude * Nat.pow 10 330) >>> pointBits)).length : Int) - 331

/-- The point of the grid of spacing `10 ^ exponent` that is nearest to `x` among its two
neighbours, if one of them rounds to `x`. -/
def onGrid? (x : Finite) (exponent : Int) : Option Nat :=
  let range := x.interval
  let up := Nat.pow 10 (-exponent).toNat
  let unit := (Nat.pow 10 exponent.toNat) <<< (pointBits + 2)
  let floor := range.value * up / unit
  let inside (n : Nat) : Bool :=
    if range.closed then range.low * up ≤ n * unit && n * unit ≤ range.high * up
    else range.low * up < n * unit && n * unit < range.high * up
  match inside floor && floor != 0, inside (floor + 1) with
  | true, false => some floor
  | false, true => some (floor + 1)
  | false, false => none
  | true, true => some (divNearest (range.value * up) unit)

/-- Tries the grids from `start` down, each ten times finer than the one before. -/
def searchGrids (x : Finite) : Nat → Int → Decimal
  | 0, exponent => ⟨(onGrid? x exponent).getD 0, exponent⟩
  | fuel + 1, exponent =>
    match onGrid? x exponent with
    | some digits => ⟨digits, exponent⟩
    | none => searchGrids x fuel (exponent - 1)

/-- Seventeen digits always suffice. -/
def shortest (x : Finite) : Decimal :=
  if x.isZero then ⟨0, 0⟩ else searchGrids x 17 x.leadingExponent

end Binary64.Finite

/-- Drops trailing zeros of a digit list into the exponent. -/
private def dropZeros : List Char → Int → List Char × Int
  | '0' :: rest, exponent => dropZeros rest (exponent + 1)
  | digits, exponent => (digits, exponent)

/-- Significant digits, none of them a trailing zero, and the exponent of the first. -/
def Decimal.scientific (d : Decimal) : List Char × Int :=
  let (reversed, exponent) := dropZeros (Nat.toDigits 10 d.digits).reverse d.exponent
  (reversed.reverse, exponent + reversed.length - 1)

/-- Digits and exponent of the first one without exponent mark. -/
def Decimal.positional (digits : List Char) (exponent : Int) : List Char × List Char :=
  match exponent with
  | .negSucc zeros => (['0'], List.replicate zeros '0' ++ digits)
  | .ofNat e =>
    let whole := digits.take (e + 1)
    (whole ++ List.replicate (e + 1 - whole.length) '0', digits.drop (e + 1))

namespace Binary64.Finite

private def signed (x : Finite) (text : List Char) : String :=
  String.ofList (if x.negative then '-' :: text else text)

/-- Positional in 10 ^ -5 ≤ |x| < 10 ^ 16, else scientific with a signed exponent; a point or an
exponent is always there. -/
def toJsonText (x : Finite) : String :=
  if x.isZero then x.signed "0.0".toList
  else
    let (digits, exponent) := x.shortest.scientific
    if -5 ≤ exponent ∧ exponent < 16 then
      let (whole, fraction) := Decimal.positional digits exponent
      x.signed (whole ++ '.' :: (if fraction.isEmpty then ['0'] else fraction))
    else
      let mantissa := match digits with
        | [] => []
        | [d] => [d]
        | d :: rest => d :: '.' :: rest
      let sign := if exponent < 0 then '-' else '+'
      x.signed (mantissa ++ 'e' :: sign :: Nat.toDigits 10 exponent.natAbs)

/-- Always positional, with a point only before a fraction. -/
def toPlainText (x : Finite) : String :=
  if x.isZero then x.signed ['0']
  else
    let (digits, exponent) := x.shortest.scientific
    let (whole, fraction) := Decimal.positional digits exponent
    x.signed (if fraction.isEmpty then whole else whole ++ '.' :: fraction)

end Binary64.Finite
end Automation
