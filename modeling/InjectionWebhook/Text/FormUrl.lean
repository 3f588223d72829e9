/-
# Form-encoded text

The encoding of web forms: letters, digits and `* - . _` stand for themselves, a space is a plus
sign, every other byte of the UTF-8 form is a percent sign with two upper-case hexadecimal digits.
-/
namespace InjectionWebhook
namespace Text

/-- The byte stands for itself. -/
def isFormPlain (b : UInt8) : Bool :=
  let n := b.toNat
  (48 ≤ n && n ≤ 57) || (65 ≤ n && n ≤ 90) || (97 ≤ n && n ≤ 122) ||
    n == 42 || n == 45 || n == 46 || n == 95

/-- The upper-case hexadecimal digit of a number below sixteen. -/
def upperHexDigit (n : Nat) : Char :=
  if n < 10 then Char.ofNat (48 + n) else Char.ofNat (55 + n)

/-- What stands for a byte. -/
def formByte (b : UInt8) : List Char :=
  if isFormPlain b then [Char.ofNat b.toNat]
  else if b = 32 then ['+']
  else ['%', upperHexDigit (b.toNat / 16), upperHexDigit (b.toNat % 16)]

/-- The form-encoded text. -/
def formEncoded (s : String) : String := String.ofList (s.toUTF8.toList.flatMap formByte)

end Text
end InjectionWebhook
