/-
# Capabilities and the switches of a Pod

Two things can be injected into a Pod: the monitoring agent and the enrichment of its metrics.  A
Pod switches each on or off by an annotation.

* `Features.ofAnnotations` reads the switches: a capability's own switch, else the global one, else
  on;
* `Features.marker` is the canonical text of the enabled capabilities, the same for every order of
  annotations;
* `Features.records` are the annotations that record an injection.

The last section says the same of the annotations as a user reads them: which key switches or records
a capability (`Capability.switch`, `Capability.record`), what is asked for (`Dict.asksFor`), and
which texts a marker can be (`Features.rendering`).
-/
import InjectionWebhook.Dict

namespace InjectionWebhook

/-! ## 1. Fields with defaults -/

/-- The text at a key, or a default. -/
def Dict.textOr (d : Dict String) (key default : String) : String := (d.get? key).getD default

/-- A field is left out or empty. -/
def Dict.Lacks (d : Dict String) (key : String) : Prop := ∀ text ∈ d.get? key, text = ""

theorem Dict.lacks_iff {d : Dict String} {key : String} :
    d.textOr key "" = "" ↔ d.Lacks key := by
  rw [Dict.textOr, Dict.Lacks]
  cases d.get? key <;> simp

/-- The truth value a text spells. -/
def truth? (text : String) : Option Bool :=
  if text ∈ ["1", "t", "T", "TRUE", "true", "True"] then some true
  else if text ∈ ["0", "f", "F", "FALSE", "false", "False"] then some false
  else none

/-- The truth value at a key, or a default where there is none or it spells none. -/
def Dict.truthOr (d : Dict String) (key : String) (default : Bool) : Bool :=
  ((d.get? key).bind truth?).getD default

/-! ## 2. Capabilities -/

/-- Something that can be injected into a Pod. -/
inductive Capability where
  /-- The monitoring agent, preloaded into every application container. -/
  | oneAgent
  /-- Enrichment files and the credentials of the metrics endpoint. -/
  | dataIngest
deriving DecidableEq

namespace Capability

/-- The word for a capability in markers and annotation keys. -/
def token : Capability → String
  | .oneAgent => "oneagent"
  | .dataIngest => "data-ingest"

/-- The annotation that switches a capability on or off. -/
def switchKey (c : Capability) : String := c.token ++ ".beacon.dev/inject"

/-- The annotation that records whether a capability was injected. -/
def recordKey (c : Capability) : String := c.token ++ ".beacon.dev/injected"

/-- All capabilities, in the order of their tokens. -/
def all : List Capability := [.dataIngest, .oneAgent]

theorem all_ascending : all.Pairwise (fun a b => a.token < b.token) := by decide

theorem mem_all (c : Capability) : c ∈ all := by cases c <;> decide

/-- The capability with a token. -/
def ofToken? (token : String) : Option Capability := all.find? (·.token = token)

end Capability

/-- The global switch. -/
def switchKey : String := "beacon.dev/inject"

/-- The marker of an injected Pod. -/
def markerKey : String := "beacon.dev/injected"

/-! ## 3. Switches -/

/-- Which capabilities are on for one Pod. -/
structure Features where
  oneAgent : Bool := false
  dataIngest : Bool := false
deriving DecidableEq

namespace Features

/-- The switch of a capability. -/
def enables (f : Features) : Capability → Bool
  | .oneAgent => f.oneAgent
  | .dataIngest => f.dataIngest

/-- Sets the switch of a capability. -/
def set (f : Features) (c : Capability) (on : Bool) : Features :=
  match c with
  | .oneAgent => { f with oneAgent := on }
  | .dataIngest => { f with dataIngest := on }

/-- Switches a capability off. -/
def without (f : Features) (c : Capability) : Features := f.set c false

/-- The switches set one after the other; what is not set is off. -/
def ofList (switches : List (Capability × Bool)) : Features :=
  switches.foldl (fun f s => f.set s.1 s.2) {}

/-- The switches that annotations ask for. -/
def ofAnnotations (annotations : Dict String) : Features :=
  let default := annotations.truthOr switchKey true
  { oneAgent := annotations.truthOr Capability.oneAgent.switchKey default
    dataIngest := annotations.truthOr Capability.dataIngest.switchKey default }

/-- The capabilities that are on, in the order of their tokens. -/
def enabled (f : Features) : List Capability := Capability.all.filter f.enables

/-- Some capability is on. -/
def any (f : Features) : Bool := Capability.all.any f.enables

/-- The tokens of the enabled capabilities, in order, with commas between them. -/
def marker (f : Features) : String := ",".intercalate (f.enabled.map Capability.token)

/-- The text of a truth value. -/
def word (b : Bool) : String := if b then "true" else "false"

/-- The annotations that record an injection: the marker and a truth value per capability. -/
def records (f : Features) : List (String × String) :=
  (markerKey, f.marker) :: Capability.all.map fun c => (c.recordKey, word (f.enables c))

@[simp] theorem enables_set (f : Features) (c : Capability) (on : Bool) (d : Capability) :
    (f.set c on).enables d = if d = c then on else f.enables d := by
  cases c <;> cases d <;> rfl

theorem any_eq_true_iff (f : Features) : f.any = true ↔ ∃ c, f.enables c = true := by
  simp only [any, List.any_eq_true]
  exact ⟨fun ⟨c, _, h⟩ => ⟨c, h⟩, fun ⟨c, h⟩ => ⟨c, Capability.mem_all c, h⟩⟩

end Features

/-- Annotations mark a Pod as injected when their marker is not empty. -/
def Dict.marksInjected (annotations : Dict String) : Bool :=
  (annotations.textOr markerKey "") ≠ ""

/-! ## 4. What the annotations say -/

namespace Capability

/-- What a capability is called in markers. -/
def listedAs : Capability → String
  | .oneAgent => "oneagent"
  | .dataIngest => "data-ingest"

/-- The annotation by which a Pod switches a capability on or off. -/
def switch : Capability → String
  | .oneAgent => "oneagent.beacon.dev/inject"
  | .dataIngest => "data-ingest.beacon.dev/inject"

/-- The annotation that records of a capability whether it is injected. -/
def record : Capability → String
  | .oneAgent => "oneagent.beacon.dev/injected"
  | .dataIngest => "data-ingest.beacon.dev/injected"

theorem switchKey_eq (c : Capability) : c.switchKey = c.switch := by cases c <;> decide

theorem recordKey_eq (c : Capability) : c.recordKey = c.record := by cases c <;> decide

end Capability

/-- What annotations say about a capability: its own switch counts, else the global one, else it is
on. -/
def Dict.asksFor (annotations : Dict String) (c : Capability) : Bool :=
  match (annotations.get? c.switch).bind truth?,
    (annotations.get? "beacon.dev/inject").bind truth? with
  | some on, _ => on
  | none, some on => on
  | none, none => true

namespace Features

theorem enables_ofAnnotations (annotations : Dict String) (c : Capability) :
    (ofAnnotations annotations).enables c = annotations.asksFor c := by
  have hkeys : (ofAnnotations annotations).enables c =
      annotations.truthOr c.switchKey (annotations.truthOr InjectionWebhook.switchKey true) := by
    cases c <;> rfl
  rw [hkeys, Capability.switchKey_eq, InjectionWebhook.switchKey, Dict.asksFor, Dict.truthOr,
    Dict.truthOr]
  cases (annotations.get? c.switch).bind truth? <;>
    cases (annotations.get? "beacon.dev/inject").bind truth? <;> rfl

/-- The text that a marker is, for all capabilities that can be on. -/
def rendering (f : Features) : String :=
  match f.dataIngest, f.oneAgent with
  | true, true => "data-ingest,oneagent"
  | true, false => "data-ingest"
  | false, true => "oneagent"
  | false, false => ""

theorem marker_eq (f : Features) : f.marker = f.rendering := by
  obtain ⟨oneAgent, dataIngest⟩ := f
  cases oneAgent <;> cases dataIngest <;> decide

end Features

end InjectionWebhook
