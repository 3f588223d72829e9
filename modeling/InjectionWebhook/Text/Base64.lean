/-
# Base64

Reading the base64 form of bytes: groups of four symbols of six bits each, the last group filled up
with equals signs.  Bits that belong to no byte must be zero.

* `base64` reads a text; what it refuses is named in `Base64Error`, by symbol and byte offset.

All groups but the last are looked at first, from left to right; the last one, which alone may hold
equals signs, is judged as a whole afterwards.
-/
namespace InjectionWebhook

/-- Why a text is not the base64 form of bytes. -/
inductive Base64Error where
  /-- A byte that is no symbol, or an equals sign out of place. -/
  | symbol (byte offset : Nat)
  /-- The last symbol has bits that belong to no byte. -/
  | lastSymbol (byte offset : Nat)
  | length (found : Nat)
  | padding
deriving DecidableEq

/-- The text of a refusal. -/
def Base64Error.message : Base64Error → String
  | .symbol byte offset =>
    "Invalid symbol " ++ toString byte ++ ", offset " ++ toString offset ++ "."
  | .lastSymbol byte offset =>
    "Invalid last symbol " ++ toString byte ++ ", offset " ++ toString offset ++ "."
  | .length n => "Invalid input length: " ++ toString n
  | .padding => "Invalid padding"

namespace Text
namespace Base64

/-! ## 1. Symbols -/

/-- The equals sign. -/
def pad : Nat := 61

/-- The six bits of a symbol. -/
def sixBits? (n : Nat) : Option Nat :=
  if 65 ≤ n && n ≤ 90 then some (n - 65)
  else if 97 ≤ n && n ≤ 122 then some (n - 71)
  else if 48 ≤ n && n ≤ 57 then some (n + 4)
  else if n = 43 then some 62
  else if n = 47 then some 63
  else none

/-- The six bits of the symbol at an offset. -/
def sixBits (offset byte : Nat) : Except Base64Error Nat :=
  match sixBits? byte with
  | some bits => .ok bits
  | none => .error (.symbol byte offset)

/-- The bytes that a run of six-bit values makes, four values making three bytes; bits left over are
dropped. -/
def bytesOf : List Nat → List UInt8
  | a :: b :: c :: d :: rest =>
    (4 * a + b / 16).toUInt8 :: (16 * (b % 16) + c / 4).toUInt8 :: (64 * (c % 4) + d).toUInt8 ::
      bytesOf rest
  | [a, b, c] => [(4 * a + b / 16).toUInt8, (16 * (b % 16) + c / 4).toUInt8]
  | [a, b] => [(4 * a + b / 16).toUInt8]
  | _ => []

/-! ## 2. Groups -/

/-- The symbols of a run that starts at an offset. -/
def symbols (offset : Nat) : List Nat → Except Base64Error (List Nat)
  | [] => .ok []
  | byte :: rest => do
    let bits ← sixBits offset byte
    return bits :: (← symbols (offset + 1) rest)

/-- The symbols of the last group.  Equals signs stand behind at least two symbols, and nothing else
stands behind them. -/
def lastSymbols (start : Nat) : (read : List Nat) → (pads : Nat) → List Nat →
    Except Base64Error (List Nat × Nat)
  | read, pads, [] => .ok (read, pads)
  | read, pads, byte :: rest =>
    if byte = pad then
      if read.length + pads < 2 then .error (.symbol pad (start + read.length))
      else lastSymbols start read (pads + 1) rest
    else if 0 < pads then .error (.symbol pad (start + read.length))
    else do
      let bits ← sixBits (start + read.length) byte
      lastSymbols start (read ++ [bits]) pads rest

/-- The bits of the last symbol that belong to no byte. -/
def spareBits (symbols : List Nat) : Nat :=
  match symbols.getLast? with
  | none => 0
  | some last =>
    if symbols.length = 2 then last % 16 else if symbols.length = 3 then last % 4 else 0

/-- Reads the last group, which starts at an offset. -/
def lastGroup (start : Nat) (group : List Nat) : Except Base64Error (List Nat) := do
  let (read, pads) ← lastSymbols start [] 0 group
  if read.length < 2 then throw (.length (start + read.length))
  else if (read.length + pads) % 4 ≠ 0 then throw .padding
  else if spareBits read ≠ 0 then
    throw (.lastSymbol (group.getD (read.length - 1) 0) (start + read.length - 1))
  else return read

/-- Reads bytes.  A single byte behind the last whole group that is no symbol is refused before all
else. -/
def decode (bytes : List Nat) : Except Base64Error (List UInt8) := do
  let n := bytes.length
  if n = 0 then return []
  else
    if n % 4 = 1 then
      match bytes.getLast? with
      | some last => if last ≠ pad && (sixBits? last).isNone then throw (.symbol last (n - 1))
      | none => pure ()
    let start := n - (if n % 4 = 0 then 4 else n % 4)
    let head ← symbols 0 (bytes.take start)
    let tail ← lastGroup start (bytes.drop start)
    return bytesOf (head ++ tail)

end Base64

/-- The bytes whose base64 form is a text. -/
def base64 (s : String) : Except Base64Error ByteArray :=
  (Base64.decode (s.toUTF8.toList.map UInt8.toNat)).map fun bs => ⟨bs.toArray⟩

end Text
end InjectionWebhook
