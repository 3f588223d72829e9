/-
# Command line arguments

What a list of arguments, together with the environment, asks the program to do.

* `Command.parse` is the command, or the first thing that is wrong;
* a value is checked as soon as it is complete: at the next flag, or at the end;
* an unexpected argument counts before a mistake in the value just before it;
* the environment is looked at last, for the settings that no argument gives.
-/
import InjectionWebhook.Command.Options

namespace InjectionWebhook
namespace Command

/-! ## 1. Progress -/

/-- A setting whose flag was read, with its value if that was read too. -/
structure Pending where
  setting : Setting
  value : Option String

/-- What the arguments so far amount to. -/
structure Progress where
  options : Options := {}
  given : List Setting := []
  /-- The manifest is asked for. -/
  manifest : Bool := false
  /-- A setting not yet taken into account. -/
  pending : Option Pending := none
  /-- Only operands follow. -/
  flagsEnded : Bool := false

/-- What the program is to do. -/
inductive Action where
  | serve (options : Options)
  | manifest
  | help
  | version

/-- Why reading the arguments ends early. -/
inductive Stop where
  | mistake (m : Mistake)
  | action (a : Action)

namespace Progress

/-- Takes a setting into account. -/
def accept (p : Progress) (s : Setting) (value : Option String) : Except Stop Progress :=
  match value with
  | none => .error (.mistake (.missingValue s))
  | some value =>
    if p.given.contains s then .error (.mistake (.repeated s.shown))
    else match p.options.set s value with
      | .ok options => .ok { p with options, given := s :: p.given }
      | .error m => .error (.mistake m)

/-- Takes the pending setting into account. -/
def settle (p : Progress) : Except Stop Progress :=
  match p.pending with
  | none => .ok p
  | some pending => { p with pending := none }.accept pending.setting pending.value

/-- A flag without a value. -/
def toggle (p : Progress) (shown : String) (value : Option String)
    (next : Progress → Except Stop Progress) : Except Stop Progress :=
  match value with
  | some value => .error (.mistake (.unexpectedValue value shown))
  | none => p.settle.bind next

/-- Asks for the manifest. -/
def askManifest (p : Progress) : Except Stop Progress :=
  if p.manifest then .error (.mistake (.repeated "--crd")) else .ok { p with manifest := true }

/-- A long flag, with the value attached to it. -/
def long (p : Progress) (name : String) (value : Option String) : Except Stop Progress :=
  if name = "help" then p.toggle "--help" value fun _ => .error (.action .help)
  else if name = "version" then p.toggle "--version" value fun _ => .error (.action .version)
  else if name = "crd" then p.toggle "--crd" value askManifest
  else match Setting.ofFlag? name with
    | none => .error (.mistake (.unexpectedArgument ("--" ++ name)))
    | some s => do
      let p ← p.settle
      match value with
      | some value => p.accept s (some value)
      | none => return { p with pending := some { setting := s, value := none } }

/-- A short flag. -/
def short (p : Progress) (c : Char) : Except Stop Progress :=
  if c = 'h' then p.settle.bind fun _ => .error (.action .help)
  else if c = 'V' then p.settle.bind fun _ => .error (.action .version)
  else .error (.mistake (.unexpectedArgument (String.ofList ['-', c])))

/-- An argument that is no flag: the value of the pending setting, if that has none yet. -/
def operand (p : Progress) (argument : String) : Except Stop Progress :=
  match p.flagsEnded, p.pending with
  | false, some ⟨s, none⟩ => .ok { p with pending := some { setting := s, value := some argument } }
  | _, _ => .error (.mistake (.unexpectedArgument argument))

/-- One argument. -/
def step (p : Progress) (argument : String) : Except Stop Progress :=
  if p.flagsEnded then p.operand argument
  else match argument.toList with
    | ['-', '-'] => .ok { p with flagsEnded := true }
    | '-' :: '-' :: rest =>
      let name := String.ofList (rest.takeWhile (· ≠ '='))
      let value :=
        if '=' ∈ rest then some (String.ofList ((rest.dropWhile (· ≠ '=')).drop 1)) else none
      p.long name value
    | '-' :: c :: _ => p.short c
    | _ => p.operand argument

/-- The environment variable of a setting that no argument gives. -/
def fromEnvironment (environment : Dict String) (p : Progress) (s : Setting) :
    Except Stop Progress :=
  if p.given.contains s then .ok p
  else match s.variable_.bind environment.get? with
    | some value => p.accept s (some value)
    | none => .ok p

end Progress

/-! ## 2. The whole command line -/

/-- What arguments and environment ask for. -/
def parse (arguments : List String) (environment : Dict String) : Except Mistake Action :=
  let finished : Except Stop Progress := do
    let p ← arguments.foldlM Progress.step {}
    let p ← p.settle
    Setting.all.foldlM (Progress.fromEnvironment environment) p
  match finished with
  | .ok p => .ok (if p.manifest then .manifest else .serve p.options)
  | .error (.mistake m) => .error m
  | .error (.action a) => .ok a

end Command
end InjectionWebhook
