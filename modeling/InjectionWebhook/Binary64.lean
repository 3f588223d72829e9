/-
# Binary64 numbers

A finite binary64 value without its sign is `significand * 2 ^ exponent`.  Every operation here is
the exact one on rationals, rounded once to the nearest value, a tie to the even significand; it has
no result where that lies beyond the largest finite value.

* `nearest?` rounds a quotient of naturals;
* `times?` and `over?` multiply and divide;
* `powerOfTen` is the value nearest to a power of ten.

Everything is arithmetic on `Nat`: no machine floating point is involved.
-/
namespace InjectionWebhook

/-- The number `significand * 2 ^ exponent`. -/
structure Binary64 where
  significand : Nat
  exponent : Int
deriving DecidableEq

namespace Binary64

instance : Inhabited Binary64 := ⟨⟨0, 0⟩⟩

/-! ## 1. Rounding -/

/-- `num / den` rounded to a natural, a half to the even neighbour. -/
def roundQuotient (num den : Nat) : Nat :=
  let low := num / den
  let twice := 2 * (num % den)
  if twice < den then low
  else if den < twice then low + 1
  else if low % 2 = 0 then low else low + 1

/-- `num / den * 2 ^ shift` as a quotient. -/
def scaleTwo (num den : Nat) (shift : Int) : Nat × Nat :=
  if 0 ≤ shift then (num * Nat.pow 2 shift.toNat, den) else (num, den * Nat.pow 2 (-shift).toNat)

/-- The integer `e` with `2 ^ e ≤ num / den < 2 ^ (e + 1)`, for positive `num` and `den`. -/
def floorLogTwo (num den : Nat) : Int :=
  let e : Int := (Nat.log2 num : Int) - (Nat.log2 den : Int)
  let (n, d) := scaleTwo num den (-e)
  if n < d then e - 1 else e

/-- The value nearest to `num / den`; none if that is beyond the largest. -/
def nearest? (num den : Nat) : Option Binary64 :=
  if num = 0 then some ⟨0, 0⟩
  else
    let q : Int := max (floorLogTwo num den - 52) (-1074)
    let (n, d) := scaleTwo num den (-q)
    let m := roundQuotient n d
    let (m, q) := if m = Nat.pow 2 53 then (Nat.pow 2 52, q + 1) else (m, q)
    if 971 < q then none else some ⟨m, q⟩

/-! ## 2. Arithmetic -/

/-- The product. -/
def times? (a b : Binary64) : Option Binary64 :=
  let (n, d) := scaleTwo (a.significand * b.significand) 1 (a.exponent + b.exponent)
  nearest? n d

/-- The quotient by a positive value. -/
def over? (a b : Binary64) : Option Binary64 :=
  let (n, d) := scaleTwo a.significand b.significand (a.exponent - b.exponent)
  nearest? n d

/-- The value nearest to `10 ^ n`, for `n` up to `greatestPower`. -/
def powerOfTen (n : Nat) : Binary64 := (nearest? (Nat.pow 10 n) 1).getD default

/-- The greatest power of ten that is a finite value. -/
def greatestPower : Nat := 308

end Binary64

end InjectionWebhook
