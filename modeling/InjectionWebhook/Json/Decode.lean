/-
# Decoding

A decoder looks for a typed value in what a text holds (`Json.Written`) and answers with the value
or with the first thing that is wrong (`Flaw`): the text is malformed, or what it says does not fit
(`Mismatch`).  Parts are looked at in the order in which they stand; what a decoder passes over only
has to be JSON.

* `Decoder.ofJson` decodes a document, in which nothing has a place;
* `Decoder.ofText` decodes a text; a flaw then says where it is.
-/
import InjectionWebhook.Json.Scan
import InjectionWebhook.Text.Base64
import InjectionWebhook.Text.Quoted

namespace InjectionWebhook

/-! ## 1. Flaws -/

/-- What a document does not fit. -/
inductive Mismatch where
  /-- A value of another kind. -/
  | kind (found : Json) (expected : String)
  /-- A value of the right kind that is not allowed. -/
  | value (found : Json) (expected : String)
  /-- A member that must be present. -/
  | missing (member : String)
  /-- A member that is given twice. -/
  | repeated (member : String)
  /-- A list of the wrong length. -/
  | length (found : Nat) (expected : String)
  /-- A text that holds no bytes. -/
  | bytes (cause : Base64Error)

/-- What a message calls a value. -/
def Json.describe : Json → String
  | .null => "null"
  | .bool true => "boolean `true`"
  | .bool false => "boolean `false`"
  | .int n => "integer `" ++ toString n ++ "`"
  | .decimal d => "floating point `" ++ d.text ++ "`"
  | .str s => "string " ++ Text.quoted s
  | .arr _ => "sequence"
  | .obj _ => "map"

/-- The text of a mismatch. -/
def Mismatch.message : Mismatch → String
  | .kind found expected => "invalid type: " ++ found.describe ++ ", expected " ++ expected
  | .value found expected => "invalid value: " ++ found.describe ++ ", expected " ++ expected
  | .missing member => "missing field `" ++ member ++ "`"
  | .repeated member => "duplicate field `" ++ member ++ "`"
  | .length found expected => "invalid length " ++ toString found ++ ", expected " ++ expected
  | .bytes cause => cause.message

/-- The text of a malformation. -/
def Malformation.message : Malformation → String
  | .illFormed => "expected value"
  | .loneSurrogate => "lone leading surrogate in hex escape"
  | .numberTooLarge => "number out of range"
  | .tooDeep => "recursion limit exceeded"
  | .surplus => "trailing characters"

/-- What is wrong. -/
inductive Defect where
  | mismatch (cause : Mismatch)
  | malformed (cause : Malformation)

/-- What is wrong, and where. -/
structure Flaw where
  defect : Defect
  place : Mark := none

namespace Flaw

/-- The text is malformed, rather than a document that does not fit. -/
def isMalformed (f : Flaw) : Bool :=
  match f.defect with
  | .mismatch _ => false
  | .malformed _ => true

/-- The text of a flaw, with its place if it has one. -/
def message (f : Flaw) : String :=
  let cause := match f.defect with
    | .mismatch m => m.message
    | .malformed m => m.message
  match f.place with
  | none => cause
  | some p => cause ++ " at line " ++ toString p.line ++ " column " ++ toString p.column

end Flaw

/-- A mismatch at a place. -/
def Mismatch.at_ (m : Mismatch) (place : Mark) : Flaw := { defect := .mismatch m, place }

/-- A malformation at a place. -/
def Malformation.at_ (m : Malformation) (place : Mark) : Flaw := { defect := .malformed m, place }

/-! ## 2. Looking at parts -/

/-- The place behind the beginning of a part. -/
def Extent.second (e : Extent) : Mark := e.start.map Place.next

/-- Goes into a container. -/
def Outline.enter (o : Outline) : Except Flaw Unit :=
  if o.deep then .error (Malformation.tooDeep.at_ o.second) else .ok ()

/-- Reaches the end of a container. -/
def Outline.leave (o : Outline) : Except Flaw Unit :=
  if o.closed then .ok () else .error (Malformation.illFormed.at_ none)

/-- The name of a member. -/
def MemberName.read : MemberName → Except Flaw String
  | .name text => .ok text
  | .spoiled m => .error (m.at_ none)
  | .foreign _ => .error (Malformation.illFormed.at_ none)

namespace Json.Written

/-- The refusal of a part that is of another kind than expected.  A list or an object is refused
where it begins, anything else where it ends. -/
def unfit (w : Written) (expected : String) : Flaw :=
  match w with
  | .leaf e (.ok j) => (Mismatch.kind j expected).at_ e.stop
  | .leaf e (.error m) => m.at_ e.stop
  | .arr o _ => (Mismatch.kind (.arr []) expected).at_ o.start
  | .obj o _ => (Mismatch.kind (.obj []) expected).at_ o.start
  | .broken => Malformation.illFormed.at_ none

/-- Passes over a part, which has to be JSON. -/
def pass (w : Written) : Except Flaw Unit :=
  if w.isWhole then .ok () else .error (Malformation.illFormed.at_ none)

end Json.Written

/-! ## 3. Decoders -/

/-- Looks for a typed value. -/
abbrev Decoder (α : Type) := Json.Written → Except Flaw α

namespace Decoder

open Json (Written)

/-- Decodes a document. -/
def ofJson (d : Decoder α) (j : Json) : Except Flaw α := d (.ofJson j)

/-- Decodes a text. -/
def ofText (d : Decoder α) (text : String) : Except Flaw α := do
  let found := Json.scan text
  let value ← d found.root
  match found.surplus with
  | none => return value
  | some place => throw (Malformation.surplus.at_ (some place.next))

/-- A text. -/
def text : Decoder String
  | .leaf _ (.ok (.str s)) => .ok s
  | w => .error (w.unfit "a string")

/-- A truth value. -/
def flag : Decoder Bool
  | .leaf _ (.ok (.bool b)) => .ok b
  | w => .error (w.unfit "a boolean")

/-- An integer in a range, which has a name. -/
def integer (low high : Int) (name : String) : Decoder Int
  | .leaf e (.ok (.int n)) =>
    if low ≤ n ∧ n ≤ high then .ok n else .error ((Mismatch.value (.int n) name).at_ e.stop)
  | w => .error (w.unfit name)

/-- A signed 32-bit integer. -/
def int32 : Decoder Int := integer Int32.minValue.toInt Int32.maxValue.toInt "i32"

/-- A signed 64-bit integer. -/
def int64 : Decoder Int := integer Int64.minValue.toInt Int64.maxValue.toInt "i64"

/-- Bytes in base64 form; `null` stands for no bytes. -/
def bytes : Decoder ByteArray
  | .leaf _ (.ok .null) => .ok .empty
  | .leaf e (.ok (.str s)) =>
    (Text.base64 s).mapError fun cause => (Mismatch.bytes cause).at_ e.stop
  | w => .error (w.unfit "a base64-encoded string")

/-- A list. -/
def list (element : Decoder α) : Decoder (List α)
  | .arr o items => do
    o.enter
    let values ← items.mapM element
    o.leave
    return values
  | w => .error (w.unfit "a sequence")

/-- A map; of several members with one name the last counts. -/
def dict (value : Decoder α) : Decoder (Dict α)
  | .obj o members => do
    o.enter
    let entries ← members.mapM fun (name, w) => do return (← name.read, ← value w)
    o.leave
    return .ofList entries
  | w => .error (w.unfit "a map")

/-- A value or `null`. -/
def nullable (value : Decoder α) : Decoder (Option α)
  | .leaf _ (.ok .null) => .ok none
  | w => some <$> value w

/-- A word out of a list.  It may also be the only name in an object, with `null` behind it. -/
def word (words : List String) (name : String) : Decoder String :=
  let allowed (s : String) (place : Mark) : Except Flaw String :=
    if words.contains s then .ok s else .error ((Mismatch.value (.str s) name).at_ place)
  fun
  | .leaf e (.ok (.str s)) => allowed s e.stop
  | .obj o ((key, w) :: rest) => do
    o.enter
    let s ← match key with
      | .name s => allowed s none
      | .spoiled m => .error (m.at_ none)
      | .foreign j => .error ((Mismatch.kind j name).at_ none)
    match w with
    | .leaf _ (.ok .null) => pure ()
    | w => throw (w.unfit "unit")
    if rest.isEmpty then o.leave else throw (Malformation.illFormed.at_ none)
    return s
  | w => .error (Malformation.illFormed.at_ w.extent.second)

mutual

/-- Any value; of several members with one name the last counts. -/
def any : Decoder Json
  | .leaf _ (.ok j) => .ok j
  | .leaf e (.error m) => .error (m.at_ e.stop)
  | .arr o items => do
    o.enter
    let values ← anyItems items
    o.leave
    return .arr values
  | .obj o members => do
    o.enter
    let values ← anyMembers members []
    o.leave
    return .obj values
  | .broken => .error (Malformation.illFormed.at_ none)

/-- The elements of a list. -/
def anyItems : List Written → Except Flaw (List Json)
  | [] => .ok []
  | item :: rest => do return (← any item) :: (← anyItems rest)

/-- The members of an object, put to those already read. -/
def anyMembers : List (MemberName × Written) → List (String × Json) →
    Except Flaw (List (String × Json))
  | [], read => .ok read
  | (name, w) :: rest, read => do
    let key ← name.read
    anyMembers rest (Entries.insert key (← any w) read)

end

end Decoder

/-- The document a text holds. -/
def Json.read (text : String) : Except Flaw Json := Decoder.any.ofText text

end InjectionWebhook
