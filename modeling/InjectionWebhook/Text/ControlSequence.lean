/-
# Control sequences

A text for a terminal may hold control sequences: they begin with an escape character and change
colours, titles or the cursor.  Where there is no terminal they are left out, together with the
control characters that have no width.  `Text.plain` is what is left of a text.

The machine goes over the bytes of the text.  Its states are the kinds of control sequences
(`Mode`); a blank ends any sequence but a string, and stays.
-/
namespace InjectionWebhook
namespace Text
namespace ControlSequence

/-- Where the machine stands. -/
inductive Mode where
  /-- In no sequence. -/
  | ground
  /-- Behind the escape character. -/
  | escape
  | escapeIntermediate
  /-- Behind `ESC [`. -/
  | commandEntry
  | commandParameter
  | commandIntermediate
  | commandIgnored
  /-- Behind `ESC P`. -/
  | deviceEntry
  | deviceParameter
  | deviceIntermediate
  | deviceIgnored
  | deviceData
  /-- Behind `ESC ]`. -/
  | systemString
  /-- Behind `ESC X`, `ESC ^` or `ESC _`. -/
  | privateString
deriving DecidableEq

namespace Mode

/-- The mode is inside a string, in which control characters mean nothing. -/
def isString : Mode → Bool
  | .deviceEntry | .deviceParameter | .deviceIntermediate | .deviceIgnored | .deviceData
  | .systemString | .privateString => true
  | _ => false

/-- The mode behind `ESC` and one more byte. -/
def afterEscape (b : Nat) : Mode :=
  if b = 0x5b then .commandEntry
  else if b = 0x5d then .systemString
  else if b = 0x50 then .deviceEntry
  else if b = 0x58 || b = 0x5e || b = 0x5f then .privateString
  else .ground

/-- The mode after a byte from U+0020 to U+007E inside a sequence. -/
def afterPrintable (m : Mode) (b : Nat) : Mode :=
  let intermediate := b < 0x30
  let parameter := b < 0x3c
  let marker := b < 0x40
  match m with
  | .ground | .systemString | .privateString | .deviceIgnored | .deviceData => m
  | .escape => if intermediate then .escapeIntermediate else afterEscape b
  | .escapeIntermediate => if intermediate then m else .ground
  | .commandEntry =>
    if intermediate then .commandIntermediate else if marker then .commandParameter else .ground
  | .commandParameter =>
    if intermediate then .commandIntermediate
    else if parameter then m
    else if marker then .commandIgnored
    else .ground
  | .commandIntermediate =>
    if intermediate then m else if marker then .commandIgnored else .ground
  | .commandIgnored => if marker then m else .ground
  | .deviceEntry =>
    if intermediate then .deviceIntermediate else if marker then .deviceParameter else .deviceData
  | .deviceParameter =>
    if intermediate then .deviceIntermediate
    else if parameter then m
    else if marker then .deviceIgnored
    else .deviceData
  | .deviceIntermediate =>
    if intermediate then m else if marker then .deviceIgnored else .deviceData

/-- The mode after a byte of a sequence. -/
def after (m : Mode) (b : Nat) : Mode :=
  if b = 0x1b then .escape
  else if b = 0x18 || b = 0x1a then .ground
  else if b = 0x07 && m = .systemString then .ground
  else if b = 0x9c && (m = .deviceIgnored || m = .deviceData || m = .privateString) then .ground
  else if 0x20 ≤ b && b < 0x7f then m.afterPrintable b
  else m

/-- The control character is a blank: tab, line feed, form feed or carriage return. -/
def isBlankControl (c : Char) : Bool := c = '\t' || c = '\n' || c = '\x0c' || c = '\r'

/-- Whether a character stays in a mode, and the mode after it. -/
def step (m : Mode) (c : Char) : Bool × Mode :=
  if isBlankControl c && !m.isString then (true, .ground)
  else if m = .ground && 0x20 ≤ c.toNat && c.toNat ≠ 0x7f then (true, .ground)
  else (false, c.toString.toUTF8.toList.foldl (fun m b => m.after b.toNat) m)

end Mode

/-- What stays of a list of characters. -/
def plainFrom (m : Mode) : List Char → List Char
  | [] => []
  | c :: rest =>
    let (stays, m) := m.step c
    if stays then c :: plainFrom m rest else plainFrom m rest

end ControlSequence

/-- A text without control sequences. -/
def plain (s : String) : String := String.ofList (ControlSequence.plainFrom .ground s.toList)

end Text
end InjectionWebhook
