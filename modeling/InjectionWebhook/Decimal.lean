/-
# Decimal text of binary64 numbers

A number with a fraction or an exponent is held as the shortest decimal that reads back as the same
binary64 value, so that it is printed with the digits one expects (`1.5`, `0.1`, `100000.0`).

* `shortest` finds the fewest digits whose decimal still rounds to a value, and of those the decimal
  nearest to it;
* `Decimal.text` writes the digits in place, with at least one after the point, where that takes few
  zeros, and in scientific notation elsewhere.
-/
import InjectionWebhook.Binary64

namespace InjectionWebhook

/-- The number `± digits * 10 ^ exponent`. -/
structure Decimal where
  negative : Bool
  digits : Nat
  exponent : Int
deriving DecidableEq

namespace Decimal

open Binary64 (roundQuotient scaleTwo)

/-! ## 1. The fewest digits -/

/-- `num / den * 10 ^ shift` as a quotient. -/
def scaleTen (num den : Nat) (shift : Int) : Nat × Nat :=
  if 0 ≤ shift then (num * Nat.pow 10 shift.toNat, den) else (num, den * Nat.pow 10 (-shift).toNat)

/-- The decimals that round to `m * 2 ^ q`, as bounds `low / den` and `high / den` around the value
`mid / den`.  The bounds themselves belong to them iff `m` is even. -/
structure Interval where
  low : Nat
  mid : Nat
  high : Nat
  den : Nat
  closed : Bool

/-- The interval of a binary64 value.  Below a power of two the neighbour is half as far away. -/
def interval (b : Binary64) : Interval :=
  let m := b.significand
  let down := if m = Nat.pow 2 52 ∧ -1074 < b.exponent then 1 else 2
  let (unit, den) := scaleTwo 1 1 (b.exponent - 2)
  { low := (4 * m - down) * unit, mid := 4 * m * unit, high := (4 * m + 2) * unit
    den, closed := m % 2 = 0 }

/-- The decimal `c * 10 ^ p` lies in the interval. -/
def Interval.holds (i : Interval) (c : Nat) (p : Int) : Bool :=
  let (n, d) := scaleTen c 1 p
  let x := n * i.den
  if i.closed then i.low * d ≤ x && x ≤ i.high * d else i.low * d < x && x < i.high * d

/-- The grid of step `10 ^ p` has a point in the interval; of the two neighbours of the value the
nearer one is taken, the even one if they are equally near. -/
def Interval.onGrid? (i : Interval) (p : Int) : Option Nat :=
  let (n, d) := scaleTen i.mid i.den (-p)
  let below := n / d
  let nearer := roundQuotient n d
  if i.holds nearer p then some nearer
  else if i.holds below p then some below
  else if i.holds (below + 1) p then some (below + 1)
  else none

/-- Searches the grids from `p` downwards, at most `steps` of them. -/
def Interval.search (i : Interval) : Nat → Int → Nat × Int
  | 0, p => (i.mid / i.den, p)
  | steps + 1, p =>
    match i.onGrid? p with
    | some c => (c, p)
    | none => i.search steps (p - 1)

/-- Digits and exponent of the shortest decimal that rounds to a value. -/
def shortest (b : Binary64) : Nat × Int :=
  let i := interval b
  let magnitude : Int := (Nat.toDigits 10 (i.mid / i.den)).length
  let leading : Int := if i.mid / i.den = 0 then 0 else magnitude
  i.search 400 leading

/-- Drops trailing zero digits. -/
def trim (steps digits : Nat) (exponent : Int) : Nat × Int :=
  match steps with
  | 0 => (digits, exponent)
  | n + 1 =>
    if digits ≠ 0 ∧ digits % 10 = 0 then trim n (digits / 10) (exponent + 1) else (digits, exponent)

/-- The decimal of a value with a sign. -/
def ofBinary64 (negative : Bool) (b : Binary64) : Decimal :=
  if b.significand = 0 then ⟨negative, 0, 0⟩
  else
    let (c, p) := shortest b
    let (c, p) := trim 400 c p
    ⟨negative, c, p⟩

/-! ## 2. Text -/

/-- So many zeros. -/
def zeros (n : Nat) : String := String.ofList (List.replicate n '0')

/-- Scientific notation: one digit before the point, and the exponent with its sign.  `power` is the
exponent of the first digit. -/
def scientific (digits : List Char) (power : Int) : String :=
  let mantissa := match digits with
    | first :: second :: rest => String.ofList (first :: '.' :: second :: rest)
    | few => String.ofList few
  let sign := if power < 0 then "-" else "+"
  mantissa ++ "e" ++ sign ++ toString power.natAbs

/-- The text of a number.  All digits stand in place where the point falls at most sixteen places
behind the first digit and at most four zeros stand between the point and the digits. -/
def text (d : Decimal) : String :=
  let sign := if d.negative then "-" else ""
  let digits := Nat.toDigits 10 d.digits
  let point : Int := digits.length + d.exponent
  let body :=
    if 0 ≤ d.exponent ∧ point ≤ 16 then String.ofList digits ++ zeros d.exponent.toNat ++ ".0"
    else if 0 < point ∧ point ≤ 16 then
      String.ofList (digits.take point.toNat) ++ "." ++ String.ofList (digits.drop point.toNat)
    else if -5 < point ∧ point ≤ 0 then "0." ++ zeros (-point).toNat ++ String.ofList digits
    else scientific digits (point - 1)
  sign ++ body

end Decimal

end InjectionWebhook
