/-
# Scanning a text

`Json.scan` makes out what a text holds (`Json.Written`).  Scanning is a left fold of one step over
the characters.  The state has two halves: where the scanner stands inside a lexeme (`Lexeme`), and
which lists and objects are open with what may come next (`Frame`, `Expected`).

* `Scan.deliver` hands a finished value to the innermost open container;
* `Scan.abandon` closes what is open where the text makes no sense any more;
* `Scan.step` takes one character.

Scanning never fails.  Text behind the first value is not looked into; `Scanned.surplus` tells where
it begins.
-/
import InjectionWebhook.Json.Number
import InjectionWebhook.Json.Written

namespace InjectionWebhook
namespace Json
namespace Scan

/-! ## 1. Open containers -/

/-- What an open container holds so far, the last part first. -/
inductive Content where
  | items (items : List Written)
  /-- Whole members, and the name of one whose value is still owed. -/
  | members (members : List (MemberName × Written)) (owing : Option MemberName)

/-- An open container. -/
structure Frame where
  outline : Outline
  content : Content

/-- What may come next. -/
inductive Expected where
  | value
  /-- The first element of a list or its end. -/
  | firstItem
  /-- The first name of an object or its end. -/
  | firstName
  | name
  | colon
  /-- A comma or the end of a container. -/
  | comma
deriving DecidableEq

/-- How many containers may be looked into, one inside the other. -/
def maxDepth : Nat := 127

namespace Frame

/-- A container that begins at a place, inside the given ones. -/
def start (place : Place) (content : Content) (frames : List Frame) : Frame :=
  { outline := { start := some place, closed := false, deep := decide (maxDepth ≤ frames.length) }
    content }

/-- Adds an element, or the value of the member under way. -/
def add (w : Written) (f : Frame) : Frame :=
  match f.content with
  | .items items => { f with content := .items (w :: items) }
  | .members members (some name) => { f with content := .members ((name, w) :: members) none }
  | .members _ none => f

/-- A member is under way. -/
def owes (f : Frame) : Bool :=
  match f.content with
  | .members _ (some _) => true
  | _ => false

/-- Begins a member. -/
def begin (name : MemberName) (f : Frame) : Frame :=
  match f.content with
  | .members members _ => { f with content := .members members (some name) }
  | .items _ => f

/-- The container in its last state. -/
def written (f : Frame) : Written :=
  match f.content with
  | .items items => .arr f.outline items.reverse
  | .members members _ => .obj f.outline members.reverse

/-- The container with its end at a place. -/
def close (stop : Place) (f : Frame) : Written :=
  { f with outline := { f.outline with stop := some stop, closed := true } }.written

end Frame

/-- What a text holds that makes no sense behind the given part, or behind the last whole one. -/
def abandon : Option Written → List Frame → Written
  | part, [] => part.getD .broken
  | part, f :: rest =>
    let f := match part with
      | some w => f.add w
      | none => if f.owes then f.add .broken else f
    abandon (some f.written) rest

/-! ## 2. Lexemes -/

/-- Where the scanner stands in a number. -/
inductive NumberPart where
  | sign | zero | whole | point | fraction | mark | exponentSign | exponent
  /-- A digit behind a leading zero. -/
  | refused
deriving DecidableEq

/-- One character of a number; none if the number ends before it. -/
def NumberPart.step? (p : NumberPart) (c : Char) : Option NumberPart :=
  match p with
  | .sign => if c = '0' then some .zero else if c.isDigit then some .whole else none
  | .zero =>
    if c.isDigit then some .refused
    else if c = '.' then some .point
    else if c = 'e' || c = 'E' then some .mark
    else none
  | .whole =>
    if c.isDigit then some .whole
    else if c = '.' then some .point
    else if c = 'e' || c = 'E' then some .mark
    else none
  | .point => if c.isDigit then some .fraction else none
  | .fraction =>
    if c.isDigit then some .fraction else if c = 'e' || c = 'E' then some .mark else none
  | .mark =>
    if c.isDigit then some .exponent
    else if c = '+' || c = '-' then some .exponentSign
    else none
  | .exponentSign => if c.isDigit then some .exponent else none
  | .exponent => if c.isDigit then some .exponent else none
  | .refused => none

/-- A number may end here. -/
def NumberPart.mayEnd : NumberPart → Bool
  | .zero | .whole | .fraction | .exponent => true
  | _ => false

/-- Where the scanner stands inside a lexeme.  Of a text the code units are held, the last one
first; a character beyond U+FFFF counts as one unit unless it is escaped. -/
inductive Lexeme where
  | between
  | text (units : List Nat)
  | escape (units : List Nat)
  /-- Inside `\u`: so many digits are owed, those read have a value. -/
  | code (units : List Nat) (owed value : Nat)
  | number (read : List Char) (part : NumberPart)
  /-- Inside `null`, `true` or `false`: what is still owed. -/
  | word (owed : List Char) (value : Json)

/-- Blanks between lexemes. -/
def isBlank (c : Char) : Bool := c = ' ' || c = '\t' || c = '\n' || c = '\r'

/-- The value of a hexadecimal digit. -/
def hexValue? (c : Char) : Option Nat :=
  if '0' ≤ c ∧ c ≤ '9' then some (c.toNat - 48)
  else if 'a' ≤ c ∧ c ≤ 'f' then some (c.toNat - 87)
  else if 'A' ≤ c ∧ c ≤ 'F' then some (c.toNat - 55)
  else none

/-- What a simple escape stands for. -/
def unescape? : Char → Option Char
  | '"' => some '"' | '\\' => some '\\' | '/' => some '/' | 'b' => some '\x08'
  | 'f' => some '\x0c' | 'n' => some '\n' | 'r' => some '\r' | 't' => some '\t'
  | _ => none

/-- The unit is the first half of a surrogate pair. -/
def isLead (unit : Nat) : Bool := 0xD800 ≤ unit && unit < 0xDC00

/-- The unit is the second half of a surrogate pair. -/
def isTrail (unit : Nat) : Bool := 0xDC00 ≤ unit && unit < 0xE000

/-- The characters of a list of code units; none if half of a pair stands alone. -/
def characters? : List Nat → Option (List Char)
  | [] => some []
  | [unit] => if isLead unit || isTrail unit then none else some [Char.ofNat unit]
  | unit :: next :: rest =>
    if isTrail unit then none
    else if isLead unit then
      if isTrail next then
        (characters? rest).map
          (Char.ofNat (0x10000 + (unit - 0xD800) * 0x400 + (next - 0xDC00)) :: ·)
      else none
    else (characters? (next :: rest)).map (Char.ofNat unit :: ·)

/-- The text of code units, the last one first. -/
def textOf (units : List Nat) : Except Malformation Json :=
  match characters? units.reverse with
  | some cs => .ok (.str (String.ofList cs))
  | none => .error .loneSurrogate

/-- The number of a literal, the last character first. -/
def numberOf (read : List Char) : Except Malformation Json :=
  match number? read.reverse with
  | some j => .ok j
  | none => .error .numberTooLarge

/-! ## 3. The scanner -/

/-- The scanner inside the first value of a text. -/
structure Progress where
  lexeme : Lexeme := .between
  /-- Where the lexeme begins. -/
  start : Place := {}
  /-- The open containers, the innermost first. -/
  frames : List Frame := []
  expected : Expected := .value

/-- The state of the scanner. -/
inductive State where
  | reading (progress : Progress)
  /-- The first value has ended, or it is known that it never will. -/
  | ended (root : Written) (surplus : Option Place)

namespace Progress

/-- The text makes no sense here; `part` is the value under way, if there is one. -/
def fail (p : Progress) (part : Option Written := none) : State :=
  .ended (abandon part p.frames) none

/-- A value may begin here. -/
def expectsValue (p : Progress) : Bool := p.expected = .value || p.expected = .firstItem

/-- A name may begin here. -/
def expectsName (p : Progress) : Bool := p.expected = .name || p.expected = .firstName

/-- Hands a finished value to the innermost open container. -/
def deliver (p : Progress) (w : Written) : State :=
  match p.frames with
  | [] => .ended w none
  | f :: rest =>
    .reading { p with lexeme := .between, frames := f.add w :: rest, expected := .comma }

/-- Takes a value other than a text as the name of a member, which it cannot be. -/
def misname (p : Progress) (name : MemberName) : State :=
  match p.frames with
  | [] => p.fail
  | f :: rest => .ended (abandon none (f.begin name :: rest)) none

/-- Takes a name. -/
def entitle (p : Progress) (value : Except Malformation Json) : State :=
  match value, p.frames with
  | .ok (.str s), f :: rest =>
    .reading { p with lexeme := .between, frames := f.begin (.name s) :: rest, expected := .colon }
  | .ok j, _ => p.misname (.foreign j)
  | .error m, _ => p.misname (.spoiled m)

/-- Takes the value of a lexeme that ends before a place. -/
def finish (p : Progress) (stop : Place) (value : Except Malformation Json) : State :=
  if p.expectsName then p.entitle value
  else p.deliver (.leaf { start := some p.start, stop := some stop } value)

/-- Opens a container. -/
def enter (p : Progress) (here : Place) (content : Content) (expected : Expected) : State :=
  if p.expectsValue then
    .reading { p with frames := .start here content p.frames :: p.frames, expected }
  else if p.expectsName then
    p.misname (.foreign (match content with
      | .items _ => .arr []
      | .members _ _ => .obj []))
  else p.fail

/-- Closes the innermost container, which is to be of one kind. -/
def leave (p : Progress) (stop : Place) (first : Expected) (fits : Content → Bool) : State :=
  match p.frames with
  | f :: rest =>
    if fits f.content && (p.expected = .comma || p.expected = first) then
      { p with frames := rest }.deliver (f.close stop)
    else p.fail
  | [] => p.fail

/-- A comma. -/
def separate (p : Progress) : State :=
  match p.expected, p.frames with
  | .comma, ⟨_, .items _⟩ :: _ => .reading { p with expected := .value }
  | .comma, ⟨_, .members _ _⟩ :: _ => .reading { p with expected := .name }
  | _, _ => p.fail

/-- The first character of a lexeme, or a blank. -/
def begin (p : Progress) (here : Place) (c : Char) : State :=
  let scalar (l : Lexeme) : State :=
    if p.expectsValue || p.expectsName then .reading { p with lexeme := l, start := here }
    else p.fail
  if isBlank c then .reading p
  else match c with
    | '[' => p.enter here (.items []) .firstItem
    | '\x7b' => p.enter here (.members [] none) .firstName
    | ']' => p.leave (here.behind c) .firstItem fun
      | .items _ => true
      | _ => false
    | '\x7d' => p.leave (here.behind c) .firstName fun
      | .members _ _ => true
      | _ => false
    | ',' => p.separate
    | ':' => if p.expected = .colon then .reading { p with expected := .value } else p.fail
    | '"' => scalar (.text [])
    | 'n' => scalar (.word ['u', 'l', 'l'] .null)
    | 't' => scalar (.word ['r', 'u', 'e'] (.bool true))
    | 'f' => scalar (.word ['a', 'l', 's', 'e'] (.bool false))
    | _ =>
      match NumberPart.sign.step? c with
      | some part => scalar (.number [c] part)
      | none => if c = '-' then scalar (.number [c] .sign) else p.fail

end Progress

/-- One character behind the first value. -/
def State.skip (root : Written) (surplus : Option Place) (here : Place) (c : Char) : State :=
  match surplus with
  | some place => .ended root (some place)
  | none => .ended root (if isBlank c then none else some here)

/-- One character at a place. -/
def step (s : State) (here : Place) (c : Char) : State :=
  match s with
  | .ended root surplus => .skip root surplus here c
  | .reading p =>
    let go (l : Lexeme) : State := .reading { p with lexeme := l }
    match p.lexeme with
    | .between => p.begin here c
    | .text units =>
      if c = '"' then p.finish (here.behind c) (textOf units)
      else if c = '\\' then go (.escape units)
      else if c.toNat < 32 then p.fail
      else go (.text (c.toNat :: units))
    | .escape units =>
      if c = 'u' then go (.code units 4 0)
      else match unescape? c with
        | some x => go (.text (x.toNat :: units))
        | none => p.fail
    | .code units owed value =>
      match hexValue? c with
      | none => p.fail
      | some digit =>
        let value := 16 * value + digit
        if owed ≤ 1 then go (.text (value :: units)) else go (.code units (owed - 1) value)
    | .word owed value =>
      match owed with
      | [] => p.fail
      | x :: rest =>
        if c ≠ x then p.fail
        else if rest.isEmpty then p.finish (here.behind c) (.ok value)
        else go (.word rest value)
    | .number read part =>
      match part.step? c with
      | some part => go (.number (c :: read) part)
      | none =>
        if !part.mayEnd then p.fail
        else match p.finish here (numberOf read) with
          | .reading p => p.begin here c
          | .ended root surplus => .skip root surplus here c

/-- The state at the end of a text. -/
def State.finish (s : State) (here : Place) : State :=
  match s with
  | .ended root surplus => .ended root surplus
  | .reading p =>
    match p.lexeme with
    | .number read part => if part.mayEnd then p.finish here (numberOf read) else p.fail
    | _ => p.fail

end Scan

/-! ## 4. Whole texts -/

/-- What a text holds: its first value, and where more than blanks follows it. -/
structure Scanned where
  root : Written
  surplus : Option Place

/-- Scans a text. -/
def scan (text : String) : Scanned :=
  let (s, stop) := text.toList.foldl
    (fun (s, here) c => (Scan.step s here c, here.behind c)) (.reading {}, ({} : Place))
  match s.finish stop with
  | .ended root surplus => { root, surplus }
  | .reading p => { root := Scan.abandon none p.frames, surplus := none }

end Json
end InjectionWebhook
