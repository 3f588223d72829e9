/-
# Workload configs survive the wire

A workload config is nine records, one inside the other, and its metadata.  Each record is a sheet of
clauses (`ProxySpec.sheet` and so on), and what reads and writes it is the codec of that sheet.  So
every config comes back, out of a document and out of a text, and whatever was accepted in the first
place comes back as what it was read as (`WorkloadConfig.survives_wire`).

The sections of the agent mode are looked at more closely, since what is injected depends on which
of them are there, and a section may be empty: a config has those that its document gives, with
anything but `null` in them (`ModeSection.givenIn_iff`).
-/
import InjectionWebhook.Proofs.PodFormats
import InjectionWebhook.Proofs.Sheets
import InjectionWebhook.WorkloadConfig.Codec

namespace InjectionWebhook

open Decoder
open Json (Written)

/-! ## 1. Codecs of the parts -/

namespace Codec

/-- Texts. -/
def text : Codec String := .ofFormat .text 0 (fun _ => trivial) placeless_text (.str 0)

/-- Truth values. -/
def flag : Codec Bool := .ofFormat .flag 0 (fun _ => trivial) placeless_flag (.bool 0)

/-- Lists of texts. -/
def texts : Codec (List String) :=
  .ofFormat (.list .text) 1 (fun _ _ _ => trivial) (placeless_list placeless_text)
    fun _ => Json.plain_ofList fun s _ => .str 0 s

/-- Maps of texts. -/
def dict : Codec (Dict String) :=
  .ofFormat (.dict .text) 1 (fun _ _ _ _ => trivial) (placeless_dict placeless_text)
    (Json.plain_ofDict (.str 0))

end Codec

theorem OwnerReference.placeless_slots :
    ∀ slot ∈ OwnerReference.record.slots, slot.format.decoder.Placeless := by
  simp only [OwnerReference.record, List.forall_mem_cons, List.not_mem_nil, false_implies,
    implies_true, and_true]
  exact ⟨placeless_text, placeless_flag, placeless_flag, placeless_text, placeless_text,
    placeless_text⟩

theorem OwnerReference.plain_slots :
    ∀ slot ∈ OwnerReference.record.slots, ∀ x, (slot.format.encode x).Plain 0 := by
  simp only [OwnerReference.record, List.forall_mem_cons, List.not_mem_nil, false_implies,
    implies_true, and_true]
  exact ⟨.str 0, .bool 0, .bool 0, .str 0, .str 0, .str 0⟩

/-- Owner references. -/
def OwnerReference.codec : Codec OwnerReference :=
  .ofRecord record 0 fits placeless_slots plain_slots

theorem ObjectMeta.placeless_slots :
    ∀ slot ∈ ObjectMeta.record.slots, slot.format.decoder.Placeless := by
  have hdict := placeless_dict placeless_text
  have howners := placeless_list OwnerReference.codec.placeless
  simp only [ObjectMeta.record, List.forall_mem_cons, List.not_mem_nil, false_implies,
    implies_true, and_true]
  exact ⟨hdict, placeless_list placeless_text, placeless_text, hdict, placeless_text,
    placeless_text, howners, placeless_text, placeless_text⟩

theorem ObjectMeta.plain_slots :
    ∀ slot ∈ ObjectMeta.record.slots, ∀ x, (slot.format.encode x).Plain 2 := by
  have hdict : ∀ d : Dict String, (Json.ofDict .str d).Plain 2 := Json.plain_ofDict (.str 1)
  simp only [ObjectMeta.record, List.forall_mem_cons, List.not_mem_nil, false_implies,
    implies_true, and_true]
  exact ⟨hdict, fun _ => Json.plain_ofList fun s _ => .str 1 s, .str 2, hdict, .str 2, .str 2,
    fun _ => Json.plain_ofList fun o _ => OwnerReference.codec.plain o, .str 2, .str 2⟩

/-- Metadata. -/
def ObjectMeta.codec : Codec ObjectMeta := .ofRecord record 2 fits placeless_slots plain_slots

/-! ## 2. Sheets -/

/-- Proxy settings. -/
def ProxySpec.sheet : Sheet ProxySpec where
  name := "struct ProxySpec"
  start := {}
  clauses :=
    [.optional "value" .text (·.value) fun v p => { p with value := v },
     .optional "valueFrom" .text (·.valueFrom) fun v p => { p with valueFrom := v }]
  order := [0, 1]

/-- Host agent settings. -/
def HostAgent.sheet : Sheet HostAgent where
  name := "struct HostInjectSpec"
  start := {}
  clauses :=
    [.skipping "args" .texts [] (·.isEmpty) (·.args) (fun v h => { h with args := v })
       fun _ => List.isEmpty_iff.mp]
  order := [0]

/-- Requests and limits. -/
def InitResources.sheet : Sheet InitResources where
  name := "struct InitResources"
  start := {}
  clauses :=
    [.skipping "requests" .dict .empty (·.isEmpty) (·.requests)
       (fun v r => { r with requests := v }) fun _ => Dict.eq_empty_of_isEmpty,
     .skipping "limits" .dict .empty (·.isEmpty) (·.limits)
       (fun v r => { r with limits := v }) fun _ => Dict.eq_empty_of_isEmpty]
  order := [1, 0]

/-- Install container settings. -/
def AppInjection.sheet : Sheet AppInjection where
  name := "struct AppInjectionSpec"
  start := {}
  clauses :=
    [.optional "initResources" InitResources.sheet.codec (·.initResources) fun v a =>
       { a with initResources := v },
     .optional "initImage" .text (·.initImage) fun v a => { a with initImage := v }]
  order := [1, 0]

/-- Application monitoring settings. -/
def ApplicationMonitoring.sheet : Sheet ApplicationMonitoring where
  name := "struct ApplicationMonitoringSpec"
  start := {}
  clauses :=
    [.always "useCSIDriver" .flag false (·.useCsiDriver) fun v a => { a with useCsiDriver := v },
     .optional "initResources" InitResources.sheet.codec (·.initResources) fun v a =>
       { a with initResources := v },
     .optional "initImage" .text (·.initImage) fun v a => { a with initImage := v }]
  order := [2, 1, 0]

/-- The agent mode. -/
def AgentMode.sheet : Sheet AgentMode where
  name := "struct OneAgentSpec"
  start := {}
  clauses :=
    [.optional "classicFullStack" HostAgent.sheet.codec (·.classicFullStack) fun v m =>
       { m with classicFullStack := v },
     .optional "cloudNativeFullStack" AppInjection.sheet.codec (·.cloudNativeFullStack)
       fun v m => { m with cloudNativeFullStack := v },
     .optional "applicationMonitoring" ApplicationMonitoring.sheet.codec (·.applicationMonitoring)
       fun v m => { m with applicationMonitoring := v },
     .optional "hostMonitoring" HostAgent.sheet.codec (·.hostMonitoring) fun v m =>
       { m with hostMonitoring := v }]
  order := [2, 0, 1, 3]

/-- Gateway settings. -/
def ActiveGate.sheet : Sheet ActiveGate where
  name := "struct ActiveGateSpec"
  start := {}
  clauses :=
    [.optional "tlsSecretName" .text (·.tlsSecretName) fun v g => { g with tlsSecretName := v }]
  order := [0]

/-- Feature switches. -/
def FeatureFlags.sheet : Sheet FeatureFlags where
  name := "struct FeatureFlags"
  start := {}
  clauses :=
    [.always "disableMetadataEnrichment" .flag false (·.disableMetadataEnrichment) fun v f =>
       { f with disableMetadataEnrichment := v },
     .always "enableWebhookReinvocationPolicy" .flag false (·.enableWebhookReinvocationPolicy)
       fun v f => { f with enableWebhookReinvocationPolicy := v }]
  order := [0, 1]

/-- Specifications. -/
def WorkloadConfigSpec.sheet : Sheet WorkloadConfigSpec where
  name := "struct WorkloadConfigSpec"
  start := { apiUrl := "" }
  clauses :=
    [.always "apiUrl" .text "" (·.apiUrl) (fun v s => { s with apiUrl := v }) true,
     .optional "tokens" .text (·.tokens) fun v s => { s with tokens := v },
     .optional "proxy" ProxySpec.sheet.codec (·.proxy) fun v s => { s with proxy := v },
     .optional "networkZone" .text (·.networkZone) fun v s => { s with networkZone := v },
     .always "oneAgent" AgentMode.sheet.codec {} (·.oneAgent) fun v s => { s with oneAgent := v },
     .optional "activeGate" ActiveGate.sheet.codec (·.activeGate) fun v s =>
       { s with activeGate := v },
     .always "features" FeatureFlags.sheet.codec {} (·.features) fun v s =>
       { s with features := v }]
  order := [5, 0, 6, 3, 4, 2, 1]

/-- Workload configs. -/
def WorkloadConfig.sheet : Sheet WorkloadConfig where
  name := "struct WorkloadConfig"
  start := { spec := { apiUrl := "" } }
  clauses :=
    [.always "metadata" ObjectMeta.codec {} (·.metadata) (fun v c => { c with metadata := v }) true,
     .always "spec" WorkloadConfigSpec.sheet.codec { apiUrl := "" } (·.spec)
       (fun v c => { c with spec := v }) true]
  constants := [("apiVersion", WorkloadConfig.apiVersion), ("kind", WorkloadConfig.kind)]
  order := [0, 1]

theorem AgentMode.decoder_eq : AgentMode.decoder = AgentMode.sheet.decoder := rfl

theorem WorkloadConfigSpec.decoder_eq :
    WorkloadConfigSpec.decoder = WorkloadConfigSpec.sheet.decoder := rfl

theorem WorkloadConfig.decoder_eq : WorkloadConfig.decoder = WorkloadConfig.sheet.decoder := rfl

theorem WorkloadConfig.toJson_eq : WorkloadConfig.toJson = WorkloadConfig.sheet.encode := rfl

/-! ## 3. Sections -/

namespace Json.Written

/-- A part inside parts: each step gives the name of a member and the position of an element. -/
def at? : List (String × Nat) → Written → Option Written
  | [], w => some w
  | (key, position) :: rest, w => (w.part? key position).bind (at? rest)

/-- The part is `null`. -/
def isNull : Written → Bool
  | .leaf _ (.ok .null) => true
  | _ => false

end Json.Written

theorem Decoder.nullable_eq {α : Type} (d : Decoder α) (w : Written) :
    d.nullable w = if w.isNull then .ok none else (d w).map some := by
  rcases w with ⟨_, m | j⟩ | _ | _ | _
  · rfl
  · cases j <;> rfl
  all_goals rfl

/-- A section of the agent mode. -/
inductive ModeSection where
  | classicFullStack | cloudNativeFullStack | applicationMonitoring | hostMonitoring
deriving DecidableEq

namespace ModeSection

/-- Where a section stands in a config: its name and its position. -/
def place : ModeSection → String × Nat
  | .classicFullStack => ("classicFullStack", 0)
  | .cloudNativeFullStack => ("cloudNativeFullStack", 1)
  | .applicationMonitoring => ("applicationMonitoring", 2)
  | .hostMonitoring => ("hostMonitoring", 3)

/-- The section is there, and may be empty. -/
def isOn (m : AgentMode) : ModeSection → Bool
  | .classicFullStack => m.classicFullStack.isSome
  | .cloudNativeFullStack => m.cloudNativeFullStack.isSome
  | .applicationMonitoring => m.applicationMonitoring.isSome
  | .hostMonitoring => m.hostMonitoring.isSome

/-- A document gives the section, with anything but `null` in it. -/
def GivenIn (w : Written) (x : ModeSection) : Prop :=
  ∃ part, w.at? [("spec", 1), ("oneAgent", 4), x.place] = some part ∧ part.isNull = false

end ModeSection

/-- An optional part is there where something other than `null` is. -/
theorem Clause.isSome_iff_of_shows {σ α : Type} {key : String} {codec : Codec α}
    {get : σ → Option α} {put : Option α → σ → σ} {get_put : ∀ v s, get (put v s) = v}
    {part? : Option Written} {v : Option α}
    (h : (Clause.optional key codec get put get_put).Shows part? v) :
    v.isSome = true ↔ ∃ part, part? = some part ∧ part.isNull = false := by
  cases part? with
  | none =>
    obtain rfl : v = none := h
    simp
  | some w =>
    have hread : codec.decoder.nullable w = .ok v := h
    rw [Decoder.nullable_eq] at hread
    simp only [Option.some.injEq, exists_eq_left']
    cases hnull : w.isNull with
    | true =>
      rw [hnull] at hread
      obtain rfl := Except.ok.inj hread
      simp
    | false =>
      rw [hnull] at hread
      obtain ⟨a, -, rfl⟩ := map_eq_ok.mp hread
      simp

theorem AgentMode.isOn_iff {w : Written} {m : AgentMode} (h : AgentMode.decoder w = .ok m)
    (x : ModeSection) : x.isOn m = true ↔
      ∃ part, w.part? x.place.1 x.place.2 = some part ∧ part.isNull = false := by
  rw [AgentMode.decoder_eq] at h
  cases x with
  | classicFullStack => exact Clause.isSome_iff_of_shows (Sheet.shows_of_decoder (i := 0) h rfl)
  | cloudNativeFullStack => exact Clause.isSome_iff_of_shows (Sheet.shows_of_decoder (i := 1) h rfl)
  | applicationMonitoring =>
    exact Clause.isSome_iff_of_shows (Sheet.shows_of_decoder (i := 2) h rfl)
  | hostMonitoring => exact Clause.isSome_iff_of_shows (Sheet.shows_of_decoder (i := 3) h rfl)

theorem ModeSection.isOn_default (x : ModeSection) : x.isOn {} = false := by cases x <;> rfl

/-- **A config has the sections that its document gives.** -/
theorem ModeSection.givenIn_iff {w : Written} {c : WorkloadConfig}
    (h : WorkloadConfig.decoder w = .ok c) (x : ModeSection) :
    x.GivenIn w ↔ x.isOn c.spec.oneAgent = true := by
  have hspec : (WorkloadConfig.sheet.clauses[1]).Shows (w.part? "spec" 1) c.spec :=
    Sheet.shows_of_decoder (t := WorkloadConfig.sheet) h rfl
  cases hpart : w.part? "spec" 1 with
  | none =>
    rw [hpart] at hspec
    have hstart : c.spec = { apiUrl := "" } := hspec
    simp [GivenIn, Json.Written.at?, hpart, hstart, x.isOn_default]
  | some spec =>
    rw [hpart] at hspec
    have hagent : (WorkloadConfigSpec.sheet.clauses[4]).Shows (spec.part? "oneAgent" 4)
        c.spec.oneAgent := Sheet.shows_of_decoder (t := WorkloadConfigSpec.sheet) hspec rfl
    cases hmode : spec.part? "oneAgent" 4 with
    | none =>
      rw [hmode] at hagent
      have hstart : c.spec.oneAgent = {} := hagent
      simp [GivenIn, Json.Written.at?, hpart, hmode, hstart, x.isOn_default]
    | some mode =>
      rw [hmode] at hagent
      rw [AgentMode.isOn_iff hagent x, GivenIn]
      simp only [Json.Written.at?, hpart, hmode, Option.bind_some, Option.bind_fun_some]

/-! ## 4. Whole configs -/

namespace WorkloadConfig

theorem ofJson_toJson (c : WorkloadConfig) : decoder.ofJson c.toJson = .ok c :=
  sheet.codec.read_encode c

theorem ofText_render_toJson (c : WorkloadConfig) : decoder.ofText c.toJson.render = .ok c :=
  sheet.codec.read_render (by decide) c

/-- **Workload configs survive the wire.**

Every config is read again from the document it is written as, and from the text of that document.
Whatever was accepted first, as a document or in a text, in any form that records may have, with
members nobody knows, with `null` for what is optional and without what has a default: what was read
is written and read again as the same, is then written as the same, and has the sections of the agent
mode that were given at first, empty ones included.  So it is the sections given at first that decide
whether applications are injected. -/
theorem survives_wire :
    (∀ c : WorkloadConfig,
      decoder.ofJson c.toJson = .ok c ∧ decoder.ofText c.toJson.render = .ok c) ∧
    ∀ (w : Written) (c : WorkloadConfig), decoder w = .ok c →
      ∃ c', decoder.ofJson c.toJson = .ok c' ∧ decoder.ofText c.toJson.render = .ok c' ∧
        c' = c ∧ c'.toJson = c.toJson ∧
        (∀ x : ModeSection, (x.GivenIn (.ofJson c.toJson) ↔ x.GivenIn w) ∧
          (x.isOn c'.spec.oneAgent = true ↔ x.GivenIn w)) ∧
        (c'.injectsApplications = true ↔
          ModeSection.cloudNativeFullStack.GivenIn w ∨
            ModeSection.applicationMonitoring.GivenIn w) := by
  refine ⟨fun c => ⟨ofJson_toJson c, ofText_render_toJson c⟩, fun w c h => ?_⟩
  refine ⟨c, ofJson_toJson c, ofText_render_toJson c, rfl, rfl, fun x => ?_, ?_⟩
  · have hfirst := x.givenIn_iff h
    have hagain := x.givenIn_iff (ofJson_toJson c)
    exact ⟨hagain.trans hfirst.symm, hfirst.symm⟩
  · rw [ModeSection.givenIn_iff h, ModeSection.givenIn_iff h, injectsApplications, Bool.or_eq_true]
    rfl

/-- A document with members nobody knows, with `null` for what is optional, and with an empty
section. -/
def looseDocument : Json := .record
  [("kind", some (.str "Config")),
   ("metadata", some (.record [("managed", some (.bool true)), ("name", some (.str "shop-config"))])),
   ("spec", some (.record
     [("apiUrl", some (.str "https://beacon.example")), ("extra", some (.arr [.null])),
      ("networkZone", some .null),
      ("oneAgent", some (.record
        [("classicFullStack", some (.record [])), ("hostMonitoring", some .null)])),
      ("proxy", some .null)]))]

/-- What that document says. -/
def looseConfig : WorkloadConfig where
  metadata := { name := some "shop-config" }
  spec := { apiUrl := "https://beacon.example", oneAgent := { classicFullStack := some {} } }

/-- The empty section comes back as an empty section, and what was `null` stays away. -/
theorem survives_wire_loose :
    decoder.ofJson looseDocument = .ok looseConfig ∧
      decoder.ofJson looseConfig.toJson = .ok looseConfig ∧
      decoder.ofText looseConfig.toJson.render = .ok looseConfig ∧
      ModeSection.classicFullStack.GivenIn (.ofJson looseDocument) ∧
      ModeSection.classicFullStack.GivenIn (.ofJson looseConfig.toJson) ∧
      ¬ ModeSection.hostMonitoring.GivenIn (.ofJson looseConfig.toJson) ∧
      ¬ ModeSection.hostMonitoring.GivenIn (.ofJson looseDocument) := by
  have hread : decoder.ofJson looseDocument = .ok looseConfig :=
    toOption_eq_some_iff.mp (by decide +kernel)
  obtain ⟨c', hagain, htext, rfl, -, hsections, -⟩ := survives_wire.2 _ _ hread
  have hclassic := (hsections .classicFullStack).2.mp rfl
  have hhost : ¬ ModeSection.hostMonitoring.GivenIn (.ofJson looseDocument) := fun h =>
    absurd ((hsections .hostMonitoring).2.mpr h) (by decide)
  exact ⟨hread, hagain, htext, hclassic, (hsections .classicFullStack).1.mpr hclassic,
    fun h => hhost ((hsections .hostMonitoring).1.mp h), hhost⟩

end WorkloadConfig
end InjectionWebhook
