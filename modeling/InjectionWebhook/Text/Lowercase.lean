/-
# Lower case

The full Unicode lower-case form of a text.  A character maps to its own form with two exceptions: a
capital I with a dot keeps the dot as a second character, and a capital sigma at the end of a word
becomes the final sigma.  A sigma ends a word when a letter with case stands before it and none
after it, characters that do not end words skipped on both sides.
-/
import InjectionWebhook.Text.CaseTables

namespace InjectionWebhook
namespace Text

/-- The lower-case form of a character taken alone. -/
def lowerChar (c : Char) : Char :=
  let n := c.toNat
  if n < 128 then c.toLower
  else
    match lowerRanges.find? fun r => r.first ≤ n && n ≤ r.last && (n - r.first) % r.step == 0 with
    | some r => Char.ofNat ((n : Int) + r.offset).toNat
    | none => c

/-- The character is a letter with case. -/
def isCased (c : Char) : Bool := casedRanges.any fun r => r.1 ≤ c.toNat && c.toNat ≤ r.2

/-- The character does not end a word. -/
def isCaseIgnorable (c : Char) : Bool :=
  ignorableRanges.any fun r => r.1 ≤ c.toNat && c.toNat ≤ r.2

/-- The first character that does not stand aside is a letter with case. -/
def startsCased (cs : List Char) : Bool := ((cs.dropWhile isCaseIgnorable).head?).any isCased

/-- Lowers a text; `before` holds the characters already passed, last first. -/
def lowerChars (before : List Char) : List Char → List Char
  | [] => []
  | c :: rest =>
    let lowered :=
      if c = 'Σ' then [if startsCased before && !startsCased rest then 'ς' else 'σ']
      else if c = 'İ' then ['i', '\u0307']
      else [lowerChar c]
    lowered ++ lowerChars (c :: before) rest

/-- The lower-case form of a text. -/
def lowercase (s : String) : String := String.ofList (lowerChars [] s.toList)

end Text
end InjectionWebhook
