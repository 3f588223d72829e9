/-
# Writing JSON text

The compact form of a document: no blanks, members in the order in which the object lists them.  In
text, quotes, backslashes and the control characters below U+0020 are escaped, everything else
stands as it is.

* `Json.escape` escapes one character, `Json.quote` a text;
* `Json.render` writes a document.
-/
import InjectionWebhook.Json.Value

namespace InjectionWebhook
namespace Json

/-- The hexadecimal digit of a number below sixteen. -/
def hexDigit (n : Nat) : Char :=
  if n < 10 then Char.ofNat (48 + n) else Char.ofNat (87 + n)

/-- What stands for a character inside quotes. -/
def escape (c : Char) : List Char :=
  if c = '"' then ['\\', '"']
  else if c = '\\' then ['\\', '\\']
  else if c = '\n' then ['\\', 'n']
  else if c = '\r' then ['\\', 'r']
  else if c = '\t' then ['\\', 't']
  else if c = '\x08' then ['\\', 'b']
  else if c = '\x0c' then ['\\', 'f']
  else if c.toNat < 32 then
    ['\\', 'u', '0', '0', hexDigit (c.toNat / 16), hexDigit (c.toNat % 16)]
  else [c]

/-- A text between quotes. -/
def quote (s : String) : String :=
  String.ofList ('"' :: s.toList.flatMap escape ++ ['"'])

mutual

/-- The compact text of a document. -/
def render : Json → String
  | .null => "null"
  | .bool true => "true"
  | .bool false => "false"
  | .int n => toString n
  | .decimal d => d.text
  | .str s => quote s
  | .arr [] => "[]"
  | .arr (item :: rest) => "[" ++ render item ++ renderItems rest ++ "]"
  | .obj [] => "\x7b\x7d"
  | .obj ((key, value) :: rest) =>
    "\x7b" ++ quote key ++ ":" ++ render value ++ renderMembers rest ++ "\x7d"

/-- The elements after the first, each after a comma. -/
def renderItems : List Json → String
  | [] => ""
  | item :: rest => "," ++ render item ++ renderItems rest

/-- The members after the first, each after a comma. -/
def renderMembers : List (String × Json) → String
  | [] => ""
  | (key, value) :: rest =>
    "," ++ quote key ++ ":" ++ render value ++ renderMembers rest

end

end Json
end InjectionWebhook
