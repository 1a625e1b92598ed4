/-!
Texts of any characters written with letters, digits and hyphens: the plain characters come first,
and behind them deltas say where the others go.
-/
namespace Automation.Url.Punycode

def base : Nat := 36
def tMin : Nat := 1
def tMax : Nat := 26
def skew : Nat := 38
def damp : Nat := 700
def initialBias : Nat := 72
def firstCode : Nat := 128

/-- Deltas do not outgrow 32 bits. -/
def limit : Nat := 0x100000000

def digitChar (d : Nat) : Char := Char.ofNat (if d < 26 then 97 + d else 22 + d)

def digitOf? (c : Char) : Option Nat :=
  if 'a' ≤ c ∧ c ≤ 'z' then some (c.toNat - 97)
  else if 'A' ≤ c ∧ c ≤ 'Z' then some (c.toNat - 65)
  else if '0' ≤ c ∧ c ≤ '9' then some (c.toNat - 22)
  else none

/-- Divides down to the range of a single digit; `fuel` bounds the number of divisions. -/
def shrink : Nat → Nat → Nat → Nat × Nat
  | 0, delta, k => (delta, k)
  | fuel + 1, delta, k =>
    if (base - tMin) * tMax / 2 < delta then shrink fuel (delta / (base - tMin)) (k + base)
    else (delta, k)

def adapt (delta count : Nat) (first : Bool) : Nat :=
  let delta := if first then delta / damp else delta / 2
  let delta := delta + delta / count
  let (delta, k) := shrink delta delta 0
  k + (base - tMin + 1) * delta / (delta + skew)

def threshold (k bias : Nat) : Nat :=
  if k ≤ bias then tMin else if bias + tMax ≤ k then tMax else k - bias

/-- The digits of one delta. -/
def encodeDelta (bias : Nat) : Nat → Nat → Nat → List Char
  | 0, _, _ => []
  | fuel + 1, q, k =>
    let t := threshold k bias
    if q < t then [digitChar q]
    else
      digitChar (t + (q - t) % (base - t)) ::
        encodeDelta bias fuel ((q - t) / (base - t)) (k + base)

/-- How far encoding has come. -/
structure EncodeState where
  delta : Nat
  bias : Nat
  handled : Nat
  output : List Char

/-- Goes through the text once for the character code `n`. -/
def encodeRound (n plain : Nat) (cs : List Char) (s : EncodeState) : EncodeState :=
  let step (s : EncodeState) (c : Char) : EncodeState :=
    if c.toNat < n then { s with delta := s.delta + 1 }
    else if c.toNat = n then
      { delta := 0
        bias := adapt s.delta (s.handled + 1) (s.handled == plain)
        handled := s.handled + 1
        output := s.output ++ encodeDelta s.bias (s.delta + 1) s.delta base }
    else s
  cs.foldl step s

/-- One round for each code that occurs beyond the plain ones, in ascending order. -/
def encodeRounds (plain : Nat) (cs : List Char) : Nat → Nat → EncodeState → EncodeState
  | 0, _, s => s
  | fuel + 1, n, s =>
    match (cs.filterMap fun c => if n ≤ c.toNat then some c.toNat else none).min? with
    | none => s
    | some m =>
      let s := { s with delta := s.delta + (m - n) * (s.handled + 1) }
      let s := encodeRound m plain cs s
      encodeRounds plain cs fuel (m + 1) { s with delta := s.delta + 1 }

def encode (cs : List Char) : List Char :=
  let plain := cs.filter (·.toNat < firstCode)
  let start := if plain.isEmpty then [] else plain ++ ['-']
  (encodeRounds plain.length cs cs.length firstCode ⟨0, initialBias, plain.length, start⟩).output

/-- One delta off the front of the digits: its value behind `i`, and the digits behind it. -/
def decodeDelta (bias : Nat) : List Char → Nat → Nat → Nat → Option (Nat × List Char)
  | [], _, _, _ => none
  | c :: rest, i, weight, k => do
    let d ← digitOf? c
    let i := i + d * weight
    if limit ≤ i then none
    else
      let t := threshold k bias
      if d < t then some (i, rest)
      else
        let weight := weight * (base - t)
        if limit ≤ weight then none else decodeDelta bias rest i weight (k + base)

/-- Puts the characters of all deltas in their places. -/
def decodeDeltas : Nat → List Char → Nat → Nat → Nat → List Char → Option (List Char)
  | _, [], _, _, _, output => some output
  | 0, _ :: _, _, _, _, _ => none
  | fuel + 1, digits, n, i, bias, output => do
    let (next, rest) ← decodeDelta bias digits i 1 base
    let length := output.length + 1
    let n := n + next / length
    let place := next % length
    if n.isValidChar then
      decodeDeltas fuel rest n (place + 1) (adapt (next - i) length (i == 0))
        (output.take place ++ Char.ofNat n :: output.drop place)
    else none

/-- The plain characters in front of the last hyphen, and the digits behind it. -/
def cutPlain (cs : List Char) : List Char × List Char :=
  let digits := (cs.reverse.takeWhile (· != '-')).reverse
  if digits.length = cs.length then ([], cs)
  else (cs.take (cs.length - digits.length - 1), digits)

def decode? (cs : List Char) : Option (List Char) :=
  let (plain, digits) := cutPlain cs
  if plain.all (·.toNat < firstCode) then
    decodeDeltas digits.length digits firstCode 0 initialBias plain
  else none

end Automation.Url.Punycode
