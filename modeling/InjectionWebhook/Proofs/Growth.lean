/-
# Nothing gets lost

Injections and repairs add to a Pod.  Seen from the documents the Pods are written as, a place that
is there before is there afterwards (`kept_inject`, `kept_repair`).  One part is excepted: a repair
writes the entries of an install container anew, and variables behind them move
(`Pod.InInstallEnv`).

What they add is fit to be read back (`fits_inject`, `fits_repair`): all numbers in the new Pod come
from the old one.
-/
import InjectionWebhook.Proofs.PodFormats
import InjectionWebhook.Proofs.RepairReach

namespace InjectionWebhook

open Json (Path Kept)

/-! ## 1. Parts of a Pod -/

/-- What is not touched keeps all. -/
theorem Slot.keeps_same {σ : Type} {slot : Slot σ} {a b : σ} {π : Path}
    (h : slot.get b = slot.get a) : ∀ rest, π = .key slot.key :: rest → slot.Keeps a b rest :=
  fun rest _ => Slot.keeps_of_eq h rest

/-- A container keeps what its variables and mounts keep. -/
theorem Container.kept {c : Container} {env : Option (List EnvVar)}
    {mounts : Option (List VolumeMount)} {π : Path}
    (henv : ∀ rest, π = .key "env" :: rest → ∀ vars, c.env = some vars →
      ∃ vars', env = some vars' ∧
        Kept (.ofList EnvVar.toJson vars) (.ofList EnvVar.toJson vars') rest)
    (hmounts : ∀ ms, c.volumeMounts = some ms → ∃ ms', mounts = some ms' ∧ ms <+: ms') :
    Kept c.toJson { c with env := env, volumeMounts := mounts : Container }.toJson π := by
  rw [toJson_eq]
  refine Record.kept ?_
  simp only [record, List.forall_mem_cons]
  refine ⟨Slot.keeps_same rfl, Slot.keeps_same rfl, henv, Slot.keeps_same rfl, Slot.keeps_same rfl,
    Slot.keeps_same rfl, Slot.keeps_same rfl, Slot.keeps_same rfl, Slot.keeps_same rfl, ?_,
    Slot.keeps_same rfl, fun _ h => absurd h List.not_mem_nil⟩
  intro rest _ ms hms
  obtain ⟨ms', hms', hprefix⟩ := hmounts ms hms
  exact ⟨ms', hms', Json.kept_ofList_of_prefix hprefix rest⟩

/-- A specification keeps what its containers, init containers and volumes keep. -/
theorem PodSpec.kept {s : PodSpec} {containers : List Container}
    {initContainers : Option (List Container)} {volumes : Option (List Volume)} {π : Path}
    (hcontainers : ∀ (i : Nat) c, s.containers[i]? = some c →
      ∃ c', containers[i]? = some c' ∧ ∀ rest, Kept c.toJson c'.toJson rest)
    (hinit : ∀ cs, s.initContainers = some cs → ∃ cs', initContainers = some cs' ∧
      ∀ (i : Nat) c, cs[i]? = some c → ∃ c', cs'[i]? = some c' ∧
        ∀ rest, π = .key "initContainers" :: .index i :: rest → Kept c.toJson c'.toJson rest)
    (hvolumes : ∀ vs, s.volumes = some vs → ∃ vs', volumes = some vs' ∧ vs <+: vs') :
    Kept s.toJson
      { s with containers := containers, initContainers := initContainers, volumes := volumes :
        PodSpec }.toJson π := by
  rw [toJson_eq]
  refine Record.kept ?_
  simp only [record, List.forall_mem_cons]
  refine ⟨?_, Slot.keeps_same rfl, ?_, Slot.keeps_same rfl, Slot.keeps_same rfl,
    Slot.keeps_same rfl, Slot.keeps_same rfl, ?_, fun _ h => absurd h List.not_mem_nil⟩
  · rintro rest - _ ⟨⟩
    refine ⟨containers, rfl, Json.kept_ofList fun i rest' _ c hc => ?_⟩
    obtain ⟨c', hc', hkept⟩ := hcontainers i c hc
    exact ⟨c', hc', hkept rest'⟩
  · rintro rest rfl cs hcs
    obtain ⟨cs', hcs', hitems⟩ := hinit cs hcs
    refine ⟨cs', hcs', Json.kept_ofList fun i rest' hrest c hc => ?_⟩
    obtain ⟨c', hc', hkept⟩ := hitems i c hc
    exact ⟨c', hc', hkept rest' (hrest ▸ rfl)⟩
  · intro rest _ vs hvs
    obtain ⟨vs', hvs', hprefix⟩ := hvolumes vs hvs
    exact ⟨vs', hvs', Json.kept_ofList_of_prefix hprefix rest⟩

/-- Metadata keep what the annotations keep, and these keep their keys. -/
theorem ObjectMeta.kept {m : ObjectMeta} {annotations : Option (Dict String)}
    (h : ∀ a, m.annotations = some a → ∃ b, annotations = some b ∧
      ∀ k, (a.get? k).isSome → (b.get? k).isSome) (π : Path) :
    Kept m.toJson { m with annotations := annotations : ObjectMeta }.toJson π := by
  rw [toJson_eq]
  refine Record.kept ?_
  simp only [record, List.forall_mem_cons]
  refine ⟨?_, Slot.keeps_same rfl, Slot.keeps_same rfl, Slot.keeps_same rfl, Slot.keeps_same rfl,
    Slot.keeps_same rfl, Slot.keeps_same rfl, Slot.keeps_same rfl, Slot.keeps_same rfl,
    fun _ h => absurd h List.not_mem_nil⟩
  intro rest _ a ha
  obtain ⟨b, hb, hkeys⟩ := h a ha
  refine ⟨b, hb, Format.kept_ofDict fun k rest' _ x hx => ?_⟩
  obtain ⟨y, hy⟩ := Option.isSome_iff_exists.mp (hkeys k (by rw [hx]; rfl))
  exact ⟨y, hy, Json.kept_of_isScalar rfl _ rest'⟩

/-- A Pod keeps what its metadata and its specification keep. -/
theorem Pod.kept {pod : Pod} {metadata : ObjectMeta} {spec : Option PodSpec} {π : Path}
    (hmetadata : ∀ rest, Kept pod.metadata.toJson metadata.toJson rest)
    (hspec : ∀ s, pod.spec = some s → ∃ s', spec = some s' ∧
      ∀ rest, π = .key "spec" :: rest → Kept s.toJson s'.toJson rest) :
    Kept pod.toJson { pod with metadata := metadata, spec := spec : Pod }.toJson π := by
  rw [toJson_eq]
  refine Record.kept ?_
  simp only [record, List.forall_mem_cons]
  refine ⟨?_, ?_, Slot.keeps_same rfl, fun _ h => absurd h List.not_mem_nil⟩
  · rintro rest - _ ⟨⟩
    exact ⟨metadata, rfl, hmetadata rest⟩
  · rintro rest rfl s hs
    obtain ⟨s', hs', hkept⟩ := hspec s hs
    exact ⟨s', hs', hkept rest rfl⟩

/-! ## 2. Injections -/

/-- A container that is given something keeps all. -/
theorem Attachment.kept_attach (a : Attachment) (c : Container) (π : Path) :
    Kept c.toJson (a.attach c).toJson π := by
  cases hempty : a.isEmpty with
  | true =>
    rw [attach_of_isEmpty hempty]
    exact .refl _ π
  | false =>
    rw [attach_of_not_isEmpty hempty]
    refine Container.kept ?_ ?_
    · rintro rest - vars hvars
      have henv : c.envVars = vars := by rw [Container.envVars, hvars, Option.getD_some]
      exact ⟨_, rfl, Json.kept_ofList_of_prefix (henv ▸ List.prefix_append _ _) rest⟩
    · intro ms hms
      have hmounts : c.mounts = ms := by rw [Container.mounts, hms, Option.getD_some]
      exact ⟨_, rfl, hmounts ▸ List.prefix_append _ _⟩

/-- Containers that are all given something keep all. -/
theorem kept_map_attach (attachment : Container → Attachment) {cs : List Container} {i : Nat}
    {c : Container} (hc : cs[i]? = some c) :
    ∃ c', (cs.map fun c => (attachment c).attach c)[i]? = some c' ∧
      ∀ rest, Kept c.toJson c'.toJson rest :=
  ⟨_, by rw [List.getElem?_map, hc, Option.map_some], (attachment c).kept_attach c⟩

namespace Injection

/-- **An injection keeps all.** -/
theorem kept_inject (i : Injection) (pod : Pod) (π : Path) :
    Kept pod.toJson (i.inject pod).toJson π := by
  refine Pod.kept (ObjectMeta.kept fun a ha => ⟨_, rfl, fun k hk => ?_⟩)
    fun s hs => ⟨_, rfl, fun rest _ => ?_⟩
  · have hmap : pod.metadata.annotationMap = a := by
      rw [ObjectMeta.annotationMap, ha, Option.getD_some]
    rw [Dict.get?_extend, hmap, Option.isSome_or, hk, Bool.or_true]
  · rw [hs, Option.getD_some]
    refine PodSpec.kept (fun _ _ => kept_map_attach fun _ => i.attachment) (fun cs hcs => ?_)
      fun vs hvs => ?_
    · rw [hcs, Option.getD_some]
      refine ⟨_, rfl, fun n c hc => ⟨c, ?_, fun _ _ => .refl _ _⟩⟩
      obtain ⟨hn, -⟩ := List.getElem?_eq_some_iff.mp hc
      rw [List.getElem?_append_left hn, hc]
    · rw [hvs, Option.getD_some]
      exact ⟨_, rfl, List.prefix_append _ _⟩

end Injection

/-! ## 3. Repairs -/

/-- Replacing the first element with a property changes one element at most, and one with the
property. -/
theorem getElem?_replaceFirst {α : Type} (p : α → Bool) (f : α → α) {x : α} :
    ∀ {l : List α} {n : Nat}, l[n]? = some x →
      ∃ y, (replaceFirst p f l)[n]? = some y ∧ (y = x ∨ p x = true ∧ y = f x)
  | [], _, h => absurd h (by simp)
  | a :: l, n, h => by
    rw [replaceFirst]
    by_cases ha : p a = true
    · rw [if_pos ha]
      cases n with
      | zero =>
        obtain rfl : a = x := by simpa using h
        exact ⟨f a, rfl, .inr ⟨ha, rfl⟩⟩
      | succ n => exact ⟨x, by simpa using h, .inl rfl⟩
    · rw [if_neg ha]
      cases n with
      | zero => exact ⟨x, h, .inl rfl⟩
      | succ n => exact getElem?_replaceFirst p f (by simpa using h)

/-- The place lies in the variables of an install container. -/
def Pod.InInstallEnv (pod : Pod) (π : Path) : Prop :=
  ∃ (n : Nat) (install : Container) (rest : Path),
    pod.initContainers[n]? = some install ∧ install.name = InstallContainer.name ∧
      π = .key "spec" :: .key "initContainers" :: .index n :: .key "env" :: rest

namespace Injection

/-- An init container stays as it is, or is an install container with other variables. -/
theorem getElem?_repairedInit (i : Injection) (pod : Pod) {cs : List Container} {n : Nat}
    {c : Container} (hc : cs[n]? = some c) :
    ∃ c', (i.repairedInit pod cs)[n]? = some c' ∧
      (c' = c ∨ c.name = InstallContainer.name ∧ ∃ env, c' = { c with env := env }) := by
  rw [repairedInit]
  by_cases hagent : (i.repairAttachment pod).agent.isSome = true
  · rw [if_pos hagent]
    obtain ⟨c', hc', hcase⟩ := getElem?_replaceFirst
      (fun c => decide (c.name = InstallContainer.name))
      (fun install => InstallContainer.sync install (i.repairedContainers pod)) hc
    refine ⟨c', hc', hcase.imp_right ?_⟩
    rintro ⟨hname, rfl⟩
    exact ⟨of_decide_eq_true hname, _, InstallContainer.sync_eq c _⟩
  · rw [if_neg hagent]
    exact ⟨c, hc, .inl rfl⟩

/-- **A repair keeps all** but the variables of an install container. -/
theorem kept_repair (i : Injection) (pod : Pod) {π : Path} (h : ¬ pod.InInstallEnv π) :
    Kept pod.toJson (i.repair pod).1.toJson π := by
  rw [fst_repair]
  refine Pod.kept (fun rest => .refl _ rest) fun s hs => ⟨_, by rw [hs]; rfl, fun rest hπ => ?_⟩
  have hcontainers : pod.containers = s.containers := by
    rw [Pod.containers, hs, Option.map_some, Option.getD_some]
  refine PodSpec.kept (fun n c hc => ?_) (fun cs hcs => ?_) fun vs hvs => ⟨vs, hvs, List.prefix_rfl⟩
  · rw [← hcontainers] at hc
    exact kept_map_attach (i.lackingIn pod) hc
  · refine ⟨_, by rw [hcs]; rfl, fun n c hc => ?_⟩
    obtain ⟨c', hc', rfl | ⟨hname, env, rfl⟩⟩ := i.getElem?_repairedInit pod hc
    · exact ⟨c', hc', fun _ _ => .refl _ _⟩
    · -- Something can get lost in the variables only, and there the place does not lie.
      refine ⟨_, hc', fun rest' hrest => Container.kept (fun rest'' henv => ?_)
        fun ms hms => ⟨ms, hms, List.prefix_rfl⟩⟩
      have hinit : pod.initContainers[n]? = some c := by
        rw [Pod.initContainers, hs, Option.bind_some, hcs, Option.getD_some, hc]
      exact absurd ⟨n, c, rest'', hinit, hname, by rw [hπ, hrest, henv]⟩ h

end Injection

/-! ## 4. What can be read back -/

/-- Variables and mounts do not matter. -/
theorem Container.fits_of_eq {c c' : Container} (h : Container.record.Fits c)
    (hports : c'.ports = c.ports) (hcontext : c'.securityContext = c.securityContext) :
    Container.record.Fits c' := by
  rw [fits_iff] at h ⊢
  rw [hports, hcontext]
  exact h

theorem Attachment.fits_attach (a : Attachment) {c : Container} (h : Container.record.Fits c) :
    Container.record.Fits (a.attach c) := by
  have hrest := (a.extends_attach c).rest
  refine Container.fits_of_eq h ?_ ?_
  · rw [hrest]
  · rw [hrest]

namespace Injection

variable {i : Injection} {pod : Pod}

theorem fits_containers (h : Pod.record.Fits pod) :
    ∀ c ∈ pod.containers, Container.record.Fits c := by
  intro c hc
  cases hspec : pod.spec with
  | none =>
    rw [Pod.containers, hspec] at hc
    exact absurd hc List.not_mem_nil
  | some s =>
    rw [Pod.containers, hspec] at hc
    exact ((PodSpec.fits_iff s).mp ((Pod.fits_iff pod).mp h s hspec)).1 c hc

/-- The install container takes its security context from an application container. -/
theorem fits_installContainer (a : Attachment) (h : Pod.record.Fits pod) :
    Container.record.Fits (i.installContainer a pod) := by
  have hports : (i.installContainer a pod).ports = none := by
    unfold installContainer
    split <;> rfl
  have hcontext : (i.installContainer a pod).securityContext =
      pod.containers.head?.bind (·.securityContext) := by
    unfold installContainer
    split <;> rfl
  rw [Container.fits_iff, hports, hcontext]
  refine ⟨fun _ h => absurd h (by simp), fun context hcontext => ?_⟩
  obtain ⟨c, hc, hcontext⟩ := Option.bind_eq_some_iff.mp hcontext
  exact ((Container.fits_iff c).mp (fits_containers h c (List.mem_of_head? hc))).2 context hcontext

theorem fits_inject (i : Injection) (h : Pod.record.Fits pod) :
    Pod.record.Fits (i.inject pod) := by
  have hold : PodSpec.record.Fits (pod.spec.getD {}) := by
    cases hspec : pod.spec with
    | none => exact PodSpec.record.fits_start
    | some s => exact (Pod.fits_iff pod).mp h s hspec
  obtain ⟨hcontainers, hinit, hgrace⟩ := (PodSpec.fits_iff _).mp hold
  refine (Pod.fits_iff _).mpr fun spec hspec => (PodSpec.fits_iff spec).mpr ?_
  obtain rfl := Option.some.inj hspec
  refine ⟨?_, ?_, hgrace⟩
  · intro c' hc'
    obtain ⟨c, hc, rfl⟩ := List.mem_map.mp hc'
    exact i.attachment.fits_attach (hcontainers c hc)
  · rintro cs ⟨⟩ c hc
    rcases List.mem_append.mp hc with hc | hc
    · cases hcs : (pod.spec.getD {}).initContainers with
      | none =>
        rw [hcs] at hc
        exact absurd hc List.not_mem_nil
      | some cs =>
        rw [hcs] at hc
        exact hinit cs hcs c hc
    · rw [List.mem_singleton.mp hc]
      exact fits_installContainer _ h

/-- Init containers after a repair differ from those before in their variables only. -/
theorem mem_repairedInit {cs : List Container} {c' : Container}
    (h : c' ∈ i.repairedInit pod cs) : ∃ c ∈ cs, ∃ env, c' = { c with env := env } := by
  rw [repairedInit] at h
  by_cases hagent : (i.repairAttachment pod).agent.isSome = true
  · rw [if_pos hagent] at h
    cases hfind : cs.find? fun c => decide (c.name = InstallContainer.name) with
    | none =>
      rw [replaceFirst_of_find?_eq_none hfind] at h
      exact ⟨c', h, c'.env, rfl⟩
    | some install =>
      rcases mem_replaceFirst hfind h with h | rfl
      · exact ⟨c', h, c'.env, rfl⟩
      · exact ⟨install, List.mem_of_find?_eq_some hfind, _, InstallContainer.sync_eq install _⟩
  · rw [if_neg hagent] at h
    exact ⟨c', h, c'.env, rfl⟩

theorem fits_repair (i : Injection) (h : Pod.record.Fits pod) :
    Pod.record.Fits (i.repair pod).1 := by
  rw [fst_repair, Pod.fits_iff]
  intro spec hspec
  obtain ⟨s, hs, rfl⟩ := Option.map_eq_some_iff.mp hspec
  obtain ⟨-, hinit, hgrace⟩ := (PodSpec.fits_iff s).mp ((Pod.fits_iff pod).mp h s hs)
  refine (PodSpec.fits_iff _).mpr ⟨?_, ?_, hgrace⟩
  · intro c' hc'
    obtain ⟨c, hc, rfl⟩ := List.mem_map.mp hc'
    exact (i.lackingIn pod c).fits_attach (fits_containers h c hc)
  · intro cs' hcs' c' hc'
    obtain ⟨cs, hcs, rfl⟩ := Option.map_eq_some_iff.mp hcs'
    obtain ⟨c, hc, env, rfl⟩ := mem_repairedInit hc'
    exact Container.fits_of_eq (hinit cs hcs c hc) rfl rfl

end Injection

end InjectionWebhook
