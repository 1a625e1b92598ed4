/-!
Spans of time in whole milliseconds.
-/
namespace Automation

structure Duration where
  milliseconds : Nat
  deriving DecidableEq

namespace Duration

def ofSeconds (n : Nat) : Duration := ⟨n * 1000⟩

def seconds (d : Duration) : Nat := d.milliseconds / 1000

instance : Min Duration := ⟨fun a b => if a.milliseconds ≤ b.milliseconds then a else b⟩

private def padded (n : Nat) : List Char :=
  [Nat.digitChar (n / 100), Nat.digitChar (n / 10 % 10), Nat.digitChar (n % 10)]

/-- In seconds with the fraction that is needed, or in milliseconds below a second. -/
def toText (d : Duration) : String :=
  let ms := d.milliseconds
  if ms = 0 then "0ns"
  else if ms < 1000 then toString ms ++ "ms"
  else
    let fraction := ((padded (ms % 1000)).reverse.dropWhile (· == '0')).reverse
    let point := if fraction.isEmpty then [] else '.' :: fraction
    toString d.seconds ++ String.ofList point ++ "s"

end Duration
end Automation
