/-
# Socket addresses

The written form of a socket address: `a.b.c.d:port`, or `[…]:port` around an IPv6 address with an
optional numeric zone.  Host names are no addresses.

Each reader takes characters off the front of a list, or fails.
-/
namespace InjectionWebhook

/-- A socket address. -/
inductive SocketAddress where
  | v4 (octets : List Nat) (port : Nat)
  | v6 (groups : List Nat) (zone port : Nat)
deriving DecidableEq

namespace SocketAddress

/-- A reader that takes characters off the front. -/
abbrev Reading (α : Type) := StateT (List Char) Option α

/-- The value of a digit in a base up to sixteen. -/
def digit? (base : Nat) (c : Char) : Option Nat :=
  let n := c.toNat
  let value :=
    if 48 ≤ n && n ≤ 57 then some (n - 48)
    else if 97 ≤ n && n ≤ 102 then some (n - 87)
    else if 65 ≤ n && n ≤ 70 then some (n - 55)
    else none
  value.filter (· < base)

/-- A number of at most `digits` digits (any number of them for none) that is at most `limit`; a
leading zero stands alone unless zeros are allowed. -/
def number (base : Nat) (digits : Option Nat) (zeros : Bool) (limit : Nat) :
    Reading Nat := fun cs =>
  let ds := cs.takeWhile fun c => (digit? base c).isSome
  let value := ds.foldl (fun n c => base * n + (digit? base c).getD 0) 0
  let tooLong := match digits with
    | some most => most < ds.length
    | none => false
  let badZero := !zeros && ds.head? = some '0' && 1 < ds.length
  if ds.isEmpty || tooLong || badZero || limit < value then none
  else some (value, cs.dropWhile fun c => (digit? base c).isSome)

/-- One given character. -/
def char (x : Char) : Reading Unit := fun
  | c :: rest => if c = x then some ((), rest) else none
  | [] => none

/-- A port. -/
def port : Reading Nat := do
  char ':'
  number 10 none true 65535

/-- Four octets with points between them. -/
def octets : Reading (List Nat) := do
  let octet := number 10 (some 3) false 255
  let a ← octet
  char '.'
  let b ← octet
  char '.'
  let c ← octet
  char '.'
  let d ← octet
  return [a, b, c, d]

/-- The two groups that four octets stand for. -/
def groupsOfOctets : List Nat → List Nat
  | [a, b, c, d] => [256 * a + b, 256 * c + d]
  | _ => []

/-- Up to `room` groups with colons between them, the first of them without one before it if
`first`. Where two more groups fit, four octets may stand for the last two.  Answers also whether
they do. -/
def groups : (room : Nat) → (first : Bool) → List Char → List Nat × Bool × List Char
  | 0, _, cs => ([], false, cs)
  | room + 1, first, cs =>
    let entry : Reading Unit := if first then pure () else char ':'
    let quad := if 1 ≤ room then (entry *> octets).run cs else none
    match quad with
    | some (os, cs) => (groupsOfOctets os, true, cs)
    | none =>
      match (entry *> number 16 (some 4) true 65535).run cs with
      | some (g, cs) =>
        let (gs, endsInOctets, cs) := groups room false cs
        (g :: gs, endsInOctets, cs)
      | none => ([], false, cs)

/-- As many groups as there are, up to `room`, and whether octets stand for the last two. -/
def someGroups (room : Nat) : Reading (List Nat × Bool) := fun cs =>
  let (gs, endsInOctets, cs) := groups room true cs
  some ((gs, endsInOctets), cs)

/-- Eight groups, or fewer around a double colon. -/
def ipv6 : Reading (List Nat) := do
  let (head, endsInOctets) ← someGroups 8
  if head.length = 8 then return head
  else if endsInOctets then failure
  else
    char ':'
    char ':'
    let (tail, _) ← someGroups (7 - head.length)
    return head ++ List.replicate (8 - head.length - tail.length) 0 ++ tail

/-- A zone, if there is one. -/
def zone : Reading Nat := fun cs =>
  match cs with
  | '%' :: rest => number 10 none true 4294967295 rest
  | _ => some (0, cs)

/-- An IPv4 socket address. -/
def v4? : Reading SocketAddress := do
  let os ← octets
  return .v4 os (← port)

/-- An IPv6 socket address. -/
def v6? : Reading SocketAddress := do
  char '['
  let gs ← ipv6
  let z ← zone
  char ']'
  return .v6 gs z (← port)

/-- The address a text stands for. -/
def ofText? (text : String) : Option SocketAddress :=
  let whole (r : Reading SocketAddress) : Option SocketAddress :=
    (r.run text.toList).bind fun (address, rest) => if rest.isEmpty then some address else none
  whole v4? <|> whole v6?

end SocketAddress
end InjectionWebhook
