/-
# Spans of time in messages

A span is a number of nanoseconds.  Its text uses the largest of the units `s`, `ms`, `µs` and `ns`
in which the span is at least one, with the exact fraction and no trailing zeros.
-/
namespace InjectionWebhook

/-- A span of time. -/
structure Duration where
  nanoseconds : Nat
deriving DecidableEq

namespace Duration

/-- A number of whole seconds. -/
def ofSeconds (n : Nat) : Duration := ⟨n * 1000000000⟩

/-- A number of whole milliseconds. -/
def ofMilliseconds (n : Nat) : Duration := ⟨n * 1000000⟩

/-- `n` with at least `width` digits, zeros in front. -/
def padded (width n : Nat) : List Char :=
  let digits := Nat.toDigits 10 n
  List.replicate (width - digits.length) '0' ++ digits

/-- `n / 10 ^ places` with its exact fraction, trailing zeros dropped. -/
def decimalText (n places : Nat) : String :=
  let fraction := ((padded places (n % Nat.pow 10 places)).reverse.dropWhile (· = '0')).reverse
  let whole := toString (n / Nat.pow 10 places)
  if n % Nat.pow 10 places = 0 then whole else whole ++ "." ++ String.ofList fraction

/-- The text of a span. -/
def text (d : Duration) : String :=
  let n := d.nanoseconds
  if Nat.pow 10 9 ≤ n then decimalText n 9 ++ "s"
  else if Nat.pow 10 6 ≤ n then decimalText n 6 ++ "ms"
  else if Nat.pow 10 3 ≤ n then decimalText n 3 ++ "µs"
  else toString n ++ "ns"

end Duration
end InjectionWebhook
