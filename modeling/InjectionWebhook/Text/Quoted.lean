/-
# Quoted text in messages

Messages show foreign text between double quotes.  Quotes, backslashes and the usual blanks other
than the space are escaped with a backslash, and what has no visible form of its own (control
characters, unusual blanks, format, private and unassigned characters, combining marks) is written
by its code point, so that a message never hides what the text holds.
-/
import InjectionWebhook.Text.UnseenRanges

namespace InjectionWebhook
namespace Text

/-- The character has no visible form of its own. -/
def isUnseen (c : Char) : Bool := unseenRanges.any fun r => r.1 ≤ c.toNat && c.toNat ≤ r.2

/-- What stands for a character between quotes. -/
def quotedChar (c : Char) : List Char :=
  if c = '"' then ['\\', '"']
  else if c = '\\' then ['\\', '\\']
  else if c = '\n' then ['\\', 'n']
  else if c = '\r' then ['\\', 'r']
  else if c = '\t' then ['\\', 't']
  else if c.toNat = 0 then ['\\', '0']
  else if isUnseen c then '\\' :: 'u' :: '\x7b' :: Nat.toDigits 16 c.toNat ++ ['\x7d']
  else [c]

/-- A text between quotes. -/
def quoted (s : String) : String := String.ofList ('"' :: s.toList.flatMap quotedChar ++ ['"'])

end Text
end InjectionWebhook
