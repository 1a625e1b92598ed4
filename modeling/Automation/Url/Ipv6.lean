import Automation.Url.Ipv4

/-!
Addresses of eight words of sixteen bits.
-/
namespace Automation.Url

structure Ipv6 where
  w0 : UInt16
  w1 : UInt16
  w2 : UInt16
  w3 : UInt16
  w4 : UInt16
  w5 : UInt16
  w6 : UInt16
  w7 : UInt16
  deriving DecidableEq

namespace Ipv6

def words (ip : Ipv6) : List UInt16 :=
  [ip.w0, ip.w1, ip.w2, ip.w3, ip.w4, ip.w5, ip.w6, ip.w7]

/-- Words that are missing are zero. -/
def ofWords (words : List Nat) : Ipv6 :=
  let word (i : Nat) : UInt16 := UInt16.ofNat (words.getD i 0)
  ⟨word 0, word 1, word 2, word 3, word 4, word 5, word 6, word 7⟩

/-- The address in the last two words. -/
def embedded (ip : Ipv6) : Ipv4 :=
  ⟨(ip.w6 >>> 8).toUInt8, ip.w6.toUInt8, (ip.w7 >>> 8).toUInt8, ip.w7.toUInt8⟩

/-- An address of four bytes in the form `::ffff:a.b.c.d`. -/
def mapped? (ip : Ipv6) : Option Ipv4 :=
  if ip.w0 = 0 ∧ ip.w1 = 0 ∧ ip.w2 = 0 ∧ ip.w3 = 0 ∧ ip.w4 = 0 ∧ ip.w5 = 0xFFFF then
    some ip.embedded
  else none

/-- Length of the run of zeros at the front. -/
private def zeros (words : List UInt16) : Nat := (words.takeWhile (· == 0)).length

/-- Place and length of the first of the longest runs of zeros from place `place` on. -/
private def longestRun : List UInt16 → Nat → Nat × Nat
  | [], place => (place, 0)
  | word :: rest, place =>
    let here := zeros (word :: rest)
    let (later, length) := longestRun rest (place + 1)
    if length ≤ here then (place, here) else (later, length)

private def joined (words : List UInt16) : String :=
  ":".intercalate (words.map fun word => String.ofList (Nat.toDigits 16 word.toNat))

/-- The longest run of at least two zero words is left out. -/
def toText (ip : Ipv6) : String :=
  let (place, length) := longestRun ip.words 0
  if length < 2 then joined ip.words
  else joined (ip.words.take place) ++ "::" ++ joined (ip.words.drop (place + length))

/-- The same with an embedded address of four bytes written as such. -/
def toMixedText (ip : Ipv6) : String :=
  match ip.mapped? with
  | some ipv4 => "::ffff:" ++ ipv4.toText
  | none => ip.toText

private def hexValue? (c : Char) : Option Nat :=
  if c.isDigit then some (c.toNat - 48)
  else if 'a' ≤ c ∧ c ≤ 'f' then some (c.toNat - 87)
  else if 'A' ≤ c ∧ c ≤ 'F' then some (c.toNat - 55)
  else none

/-- A byte in base ten without leading zeros. -/
private def byte? (cs : List Char) : Option Nat :=
  if cs.isEmpty || !cs.all Char.isDigit || (1 < cs.length && cs.head? == some '0') then none
  else
    let n := cs.foldl (fun n c => n * 10 + (c.toNat - 48)) 0
    if n < 256 then some n else none

/-- Two words written as four bytes. -/
private def dotted? (cs : List Char) : Option (List Nat) :=
  match (Text.pieces '.' cs).mapM byte? with
  | some [a, b, c, d] => some [a * 256 + b, c * 256 + d]
  | _ => none

/-- Words read so far, and how many of them stand in front of the gap. -/
private structure Partial where
  words : List Nat
  gap : Option Nat

private def Partial.finish (p : Partial) : Option Ipv6 :=
  match p.gap with
  | none => if p.words.length = 8 then some (ofWords p.words) else none
  | some n =>
    some (ofWords (p.words.take n ++ List.replicate (8 - p.words.length) 0 ++ p.words.drop n))

/-- Reads words between colons; `fuel` bounds their number. A gap counts as one zero word. -/
private def readWords : Nat → Partial → List Char → Option Ipv6
  | _, p, [] => p.finish
  | 0, _, _ :: _ => none
  | fuel + 1, p, c :: rest =>
    if 8 ≤ p.words.length then none
    else if c = ':' then
      if p.gap.isSome then none
      else readWords fuel ⟨p.words ++ [0], some (p.words.length + 1)⟩ rest
    else
      let digits := ((c :: rest).take 4).takeWhile (hexValue? · |>.isSome)
      let behind := (c :: rest).drop digits.length
      match behind with
      | '.' :: _ =>
        if digits.isEmpty || 6 < p.words.length then none
        else (dotted? (c :: rest)).bind fun words => { p with words := p.words ++ words }.finish
      | _ =>
        let word := digits.foldl (fun n c => n * 16 + (hexValue? c).getD 0) 0
        let p := { p with words := p.words ++ [word] }
        match behind with
        | [] => p.finish
        | [':'] => none
        | ':' :: more => readWords fuel p more
        | _ => none

/-- The address that the text between brackets stands for. -/
def parse? : List Char → Option Ipv6
  | ':' :: ':' :: rest => readWords (rest.length + 1) ⟨[0], some 1⟩ rest
  | ':' :: _ => none
  | cs => readWords (cs.length + 1) ⟨[], none⟩ cs

end Ipv6
end Automation.Url
