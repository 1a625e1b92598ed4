import Automation.Text.Split

/-!
Addresses of four bytes, and the many ways in which a host can spell one.
-/
namespace Automation.Url

structure Ipv4 where
  a : UInt8
  b : UInt8
  c : UInt8
  d : UInt8
  deriving DecidableEq

namespace Ipv4

def ofNat (n : Nat) : Ipv4 :=
  ⟨UInt8.ofNat (n / 0x1000000), UInt8.ofNat (n / 0x10000), UInt8.ofNat (n / 0x100), UInt8.ofNat n⟩

def toText (ip : Ipv4) : String :=
  ".".intercalate ([ip.a, ip.b, ip.c, ip.d].map fun byte => toString byte.toNat)

private def digitOf? (base : Nat) (c : Char) : Option Nat :=
  let n :=
    if c.isDigit then c.toNat - 48
    else if 'a' ≤ c ∧ c ≤ 'f' then c.toNat - 87
    else if 'A' ≤ c ∧ c ≤ 'F' then c.toNat - 55
    else base
  if n < base then some n else none

/-- A number in base ten, in base eight behind a zero, or in base sixteen behind `0x`. -/
def number? : List Char → Option Nat
  | [] => none
  | '0' :: 'x' :: digits | '0' :: 'X' :: digits => digitsIn 16 digits
  | '0' :: c :: digits => digitsIn 8 (c :: digits)
  | digits => digitsIn 10 digits
where
  digitsIn (base : Nat) (digits : List Char) : Option Nat :=
    digits.foldlM (fun n c => (digitOf? base c).map (n * base + ·)) 0

/-- The parts of a host, of which an empty last one does not count. -/
def parts (host : List Char) : List (List Char) :=
  let all := Text.pieces '.' host
  if all.getLast? = some [] then all.dropLast else all

/-- A host that ends in a number has to be an address. -/
def endsInNumber (host : List Char) : Bool :=
  match (parts host).getLast? with
  | none => false
  | some last => !last.isEmpty && (last.all Char.isDigit || (number? last).isSome)

/-- All numbers but the last are bytes, and the last fills what is left. -/
def parse? (host : List Char) : Option Ipv4 := do
  let parts := parts host
  if 4 < parts.length then none
  else
    let numbers ← parts.mapM number?
    let last ← numbers.getLast?
    let bytes := numbers.dropLast
    if bytes.all (· < 256) && last < Nat.pow 256 (4 - bytes.length) then
      let high := bytes.foldl (fun n byte => n * 256 + byte) 0
      some (ofNat (high * Nat.pow 256 (4 - bytes.length) + last))
    else none

end Ipv4
end Automation.Url
