/-
# Number literals

What the literal of a number stands for (`Json.number?`).

An integer that fits into 64 bits stands for itself.  Any other literal is read in three steps: as
many leading digits as fit into 64 bits make the significand, the digits dropped and the exponent
make a power of ten, and the significand, rounded to binary64, is multiplied or divided by that
power.  Each step rounds, so the result can differ from the nearest value in its last digit.
-/
import InjectionWebhook.Json.Value

namespace InjectionWebhook
namespace Json

/-! ## 1. Significand and power of ten -/

/-- The value of a list of decimal digits. -/
def digitsValue (cs : List Char) : Nat :=
  cs.foldl (fun n c => 10 * n + (c.toNat - 48)) 0

/-- The leading digits of a literal, and the power of ten they are to be multiplied by. -/
structure Significand where
  value : Nat := 0
  power : Int := 0
  /-- A digit did not fit any more. -/
  full : Bool := false

namespace Significand

/-- Takes one more digit, if 64 bits hold it. -/
def push? (s : Significand) (c : Char) : Option Significand :=
  let next := digitsValue [c] + 10 * s.value
  if !s.full && next < UInt64.size then some { s with value := next } else none

/-- A digit before the point: one that does not fit still counts as a place. -/
def whole (s : Significand) (c : Char) : Significand :=
  (s.push? c).getD { s with full := true, power := s.power + 1 }

/-- A digit behind the point: one that does not fit is dropped. -/
def fraction (s : Significand) (c : Char) : Significand :=
  match s.push? c with
  | some s => { s with power := s.power - 1 }
  | none => { s with full := true }

/-- The value of a significand; none if it is too large.

A power beyond those of binary64 is taken in several steps, each of which rounds; after a few of
them nothing is left of any significand. -/
def toBinary64? (s : Significand) : Option Binary64 := do
  let start ← Binary64.nearest? s.value 1
  if start.significand = 0 then return start
  else if 0 ≤ s.power then
    if Binary64.greatestPower < s.power.toNat then none
    else start.times? (.powerOfTen s.power.toNat)
  else
    let places := (-s.power).toNat
    let steps := (places - 1) / Binary64.greatestPower
    let greatest := Binary64.powerOfTen Binary64.greatestPower
    let shrunk ← (List.range (min steps 3)).foldlM (fun x _ => x.over? greatest) start
    shrunk.over? (.powerOfTen (places - steps * Binary64.greatestPower))

end Significand

/-! ## 2. Literals -/

/-- The exponent after `e`: digits with an optional sign. -/
def exponentValue : List Char → Int
  | '-' :: ds => -(digitsValue ds : Int)
  | '+' :: ds => digitsValue ds
  | ds => digitsValue ds

/-- The number a literal without its sign stands for. -/
def magnitude? (negative : Bool) (cs : List Char) : Option Json :=
  let whole := cs.takeWhile Char.isDigit
  let after := cs.dropWhile Char.isDigit
  let leading := whole.foldl Significand.whole {}
  let decimal (s : Significand) : Option Json :=
    s.toBinary64?.map fun b => .decimal (.ofBinary64 negative b)
  let scaled (s : Significand) (tail : List Char) : Option Json :=
    decimal { s with power := s.power + exponentValue (tail.drop 1) }
  match after with
  | [] =>
    let n := leading.value
    if leading.full then decimal leading
    else if !negative then some (.int n)
    else if 0 < n ∧ n ≤ Nat.pow 2 63 then some (.int (-(n : Int)))
    else decimal leading
  | '.' :: rest =>
    let tail := rest.dropWhile Char.isDigit
    scaled ((rest.takeWhile Char.isDigit).foldl
      Significand.fraction { leading with full := false }) tail
  | tail => scaled leading tail

/-- The number a literal stands for; none if it is too large.  The literal has the form of a
number. -/
def number? : List Char → Option Json
  | '-' :: cs => magnitude? true cs
  | cs => magnitude? false cs

end Json
end InjectionWebhook
