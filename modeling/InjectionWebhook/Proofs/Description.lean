/-
# What the install container says of the others

The install container carries the number of application containers, and entries with the names and
images of some of them.  It `Describes` containers if the number is right and each entry has the name
and the image of the container at its position.  A Pod is `Described` if its install container
describes its application containers.

A fresh injection describes the Pod (`Injection.described_inject`).  Others may put containers in,
take them out and change their order, and then only a repair with the agent writes the description
anew: a repair leaves the Pod described exactly if the agent is on, or if the Pod was described
before (`Injection.described_repair_iff`, and `Career.described_of_patched` for a whole career).  A
repair for enrichment alone leaves a stale description behind (`not_described_of_enrichment`).
-/
import InjectionWebhook.Proofs.Career

namespace InjectionWebhook
namespace InstallContainer

/-! ## 1. Names of entries -/

theorem toList_entryNameEnv (n : Nat) :
    (entryNameEnv n).toList = "CONTAINER_".toList ++ ((toString n).toList ++ "_NAME".toList) := by
  simp [entryNameEnv]

theorem toList_entryImageEnv (n : Nat) :
    (entryImageEnv n).toList =
      "CONTAINER_".toList ++ ((toString n).toList ++ "_IMAGE".toList) := by
  simp [entryImageEnv]

/-- A position is read off its digits. -/
theorem eq_of_toList_toString {n m : Nat} (h : (toString n).toList = (toString m).toList) :
    n = m := by
  rw [Nat.toString_eq_repr, Nat.toString_eq_repr, Nat.toList_repr, Nat.toList_repr] at h
  calc n = Nat.ofDigitChars 10 (Nat.toDigits 10 n) 0 := Nat.ofDigitChars_ten_toDigits.symm
    _ = Nat.ofDigitChars 10 (Nat.toDigits 10 m) 0 := by rw [h]
    _ = m := Nat.ofDigitChars_ten_toDigits

/-- The name of an entry tells its position. -/
theorem entryNameEnv_inj {n m : Nat} (h : entryNameEnv n = entryNameEnv m) : n = m := by
  have hchars := congrArg String.toList h
  rw [toList_entryNameEnv, toList_entryNameEnv] at hchars
  exact eq_of_toList_toString (List.append_cancel_right (List.append_cancel_left hchars))

theorem entryImageEnv_inj {n m : Nat} (h : entryImageEnv n = entryImageEnv m) : n = m := by
  have hchars := congrArg String.toList h
  rw [toList_entryImageEnv, toList_entryImageEnv] at hchars
  exact eq_of_toList_toString (List.append_cancel_right (List.append_cancel_left hchars))

/-- No variable holds a name and an image. -/
theorem entryNameEnv_ne_entryImageEnv (n m : Nat) : entryNameEnv n ≠ entryImageEnv m := by
  intro h
  have hchars := congrArg String.toList h
  rw [toList_entryNameEnv, toList_entryImageEnv] at hchars
  have hends := congrArg (isEntryName.stripBack "_NAME".toList) (List.append_cancel_left hchars)
  rw [stripBack_append, stripBack_name_image] at hends
  exact absurd hends (by simp)

/-! ## 2. Descriptions -/

/-- The install container describes containers: it has their number, and each of its entries has the
name or the image of the container at its position, counted from one. -/
structure Describes (install : Container) (cs : List Container) : Prop where
  count : valueOf install "CONTAINERS_COUNT" = toString cs.length
  names : ∀ e ∈ install.envVars, ∀ n, e.name = "CONTAINER_" ++ toString n ++ "_NAME" →
    ∃ c, (c, n) ∈ cs.zipIdx 1 ∧ e.value = some c.name
  images : ∀ e ∈ install.envVars, ∀ n, e.name = "CONTAINER_" ++ toString n ++ "_IMAGE" →
    ∃ c, (c, n) ∈ cs.zipIdx 1 ∧ e.value = some (c.image.getD "")

/-- Whatever is named like an entry is the entry of a container at its position. -/
def Lists (vars : List EnvVar) (position : Nat) (cs : List Container) : Prop :=
  ∀ e ∈ vars, isEntryName e.name = true → ∃ c n, (c, n) ∈ cs.zipIdx position ∧ e ∈ entry n c

theorem Lists.append {vars vars' : List EnvVar} {position : Nat} {cs : List Container}
    (h : Lists vars position cs) (h' : Lists vars' position cs) :
    Lists (vars ++ vars') position cs := by
  intro e he hentry
  rcases List.mem_append.mp he with he | he
  · exact h e he hentry
  · exact h' e he hentry

theorem lists_of_no_entry {vars : List EnvVar} (h : ∀ e ∈ vars, isEntryName e.name = false)
    (position : Nat) (cs : List Container) : Lists vars position cs := by
  intro e he hentry
  rw [h e he] at hentry
  exact absurd hentry Bool.false_ne_true

/-- One more container in front. -/
theorem Lists.cons {vars : List EnvVar} {position : Nat} {c : Container} {cs : List Container}
    (hfirst : ∀ e ∈ vars, e ∈ entry position c) {rest : List EnvVar}
    (h : Lists rest (position + 1) cs) : Lists (vars ++ rest) position (c :: cs) := by
  intro e he hentry
  rw [List.zipIdx_cons]
  rcases List.mem_append.mp he with he | he
  · exact ⟨c, position, List.mem_cons_self, hfirst e he⟩
  · obtain ⟨d, n, hd, he⟩ := h e he hentry
    exact ⟨d, n, List.mem_cons_of_mem _ hd, he⟩

theorem lists_entriesFrom : ∀ (cs : List Container) (position : Nat),
    Lists (entriesFrom position cs) position cs
  | [], _ => fun _ he => absurd he List.not_mem_nil
  | c :: cs, position => by
    refine Lists.cons (fun e he => ?_) (lists_entriesFrom cs (position + 1))
    split at he
    · exact he
    · exact absurd he List.not_mem_nil

theorem lists_allEntriesFrom : ∀ (cs : List Container) (position : Nat),
    Lists (Injection.allEntriesFrom position cs) position cs
  | [], _ => fun _ he => absurd he List.not_mem_nil
  | _ :: cs, position => Lists.cons (fun _ => id) (lists_allEntriesFrom cs (position + 1))

/-- **Count and entries make a description.** -/
theorem describes_of_lists {install : Container} {cs : List Container}
    (count : valueOf install countEnv = toString cs.length) (h : Lists install.envVars 1 cs) :
    Describes install cs where
  count := count
  names := by
    intro e he n hname
    obtain ⟨c, m, hc, hentry⟩ := h e he (hname ▸ isEntryName_entryNameEnv n)
    simp only [entry, List.mem_cons, List.not_mem_nil, or_false] at hentry
    rcases hentry with rfl | rfl
    · rw [← entryNameEnv_inj hname]
      exact ⟨c, hc, rfl⟩
    · exact absurd hname.symm (entryNameEnv_ne_entryImageEnv n m)
  images := by
    intro e he n hname
    obtain ⟨c, m, hc, hentry⟩ := h e he (hname ▸ isEntryName_entryImageEnv n)
    simp only [entry, List.mem_cons, List.not_mem_nil, or_false] at hentry
    rcases hentry with rfl | rfl
    · exact absurd hname (entryNameEnv_ne_entryImageEnv m n)
    · rw [← entryImageEnv_inj hname]
      exact ⟨c, hc, rfl⟩

/-! ## 3. What is described -/

theorem mem_or_name_of_mem_setVar {name value : String} {e : EnvVar} :
    ∀ {vars : List EnvVar}, e ∈ setVar name value vars → e ∈ vars ∨ e.name = name
  | [], h => .inr (by rw [List.mem_singleton.mp h]; rfl)
  | d :: vars, h => by
    unfold setVar at h
    split at h
    · rename_i hd
      rcases List.mem_cons.mp h with rfl | h
      · exact .inr hd
      · exact .inl (List.mem_cons_of_mem _ h)
    · rcases List.mem_cons.mp h with rfl | h
      · exact .inl List.mem_cons_self
      · exact (mem_or_name_of_mem_setVar h).imp (List.mem_cons_of_mem _) id

/-- A variable that was set has its value. -/
theorem value_find?_setVar (name value : String) : ∀ vars : List EnvVar,
    ((setVar name value vars).find? (fun e => decide (e.name = name))).bind (·.value) = some value
  | [] => by simp [setVar, EnvVar.plain]
  | e :: vars => by
    unfold setVar
    split
    · rename_i he
      simp [he]
    · rename_i he
      rw [List.find?_cons_of_neg (by simp [he])]
      exact value_find?_setVar name value vars

/-- **Writing the entries anew describes the containers.** -/
theorem describes_sync (install : Container) (cs : List Container) :
    Describes (sync install cs) cs := by
  refine describes_of_lists ?_ ?_
  · rw [valueOf, Container.findEnv?, envVars_sync, value_find?_setVar]
    rfl
  · intro e he hentry
    rw [envVars_sync] at he
    rcases mem_or_name_of_mem_setVar he with he | hname
    · have hkept : Lists (install.envVars.filter fun e => !isEntryName e.name) 1 cs :=
        lists_of_no_entry (fun d hd => by simpa using (List.mem_filter.mp hd).2) 1 cs
      exact hkept.append (lists_entriesFrom cs 1) e he hentry
    · rw [hname, isEntryName_countEnv] at hentry
      exact absurd hentry Bool.false_ne_true

/-- What is described stays so where names and images stay. -/
theorem describes_map_iff {f : Container → Container} (hname : ∀ c, (f c).name = c.name)
    (himage : ∀ c, (f c).image = c.image) {install : Container} {cs : List Container} :
    Describes install (cs.map f) ↔ Describes install cs := by
  have hmem : ∀ (n : Nat) (P : Container → Prop), (∀ c, P (f c) ↔ P c) →
      ((∃ c, (c, n) ∈ (cs.map f).zipIdx 1 ∧ P c) ↔ ∃ c, (c, n) ∈ cs.zipIdx 1 ∧ P c) := by
    intro n P hP
    rw [List.zipIdx_map]
    constructor
    · rintro ⟨c, hc, hPc⟩
      obtain ⟨⟨d, m⟩, hd, heq⟩ := List.mem_map.mp hc
      obtain ⟨rfl, rfl⟩ := Prod.mk.inj heq
      exact ⟨d, hd, (hP d).mp hPc⟩
    · rintro ⟨c, hc, hPc⟩
      exact ⟨f c, List.mem_map.mpr ⟨(c, n), hc, rfl⟩, (hP c).mpr hPc⟩
  have hnames : ∀ (e : EnvVar) (n : Nat),
      (∃ c, (c, n) ∈ (cs.map f).zipIdx 1 ∧ e.value = some c.name) ↔
        ∃ c, (c, n) ∈ cs.zipIdx 1 ∧ e.value = some c.name :=
    fun e n => hmem n _ fun c => by rw [hname]
  have himages : ∀ (e : EnvVar) (n : Nat),
      (∃ c, (c, n) ∈ (cs.map f).zipIdx 1 ∧ e.value = some (c.image.getD "")) ↔
        ∃ c, (c, n) ∈ cs.zipIdx 1 ∧ e.value = some (c.image.getD "") :=
    fun e n => hmem n _ fun c => by rw [himage]
  constructor
  · rintro ⟨hcount, hn, hi⟩
    rw [List.length_map] at hcount
    exact ⟨hcount, fun e he n h => (hnames e n).mp (hn e he n h),
      fun e he n h => (himages e n).mp (hi e he n h)⟩
  · rintro ⟨hcount, hn, hi⟩
    rw [← List.length_map f] at hcount
    exact ⟨hcount, fun e he n h => (hnames e n).mpr (hn e he n h),
      fun e he n h => (himages e n).mpr (hi e he n h)⟩

/-- **A fresh install container describes the Pod.** -/
theorem describes_installContainer (i : Injection) (a : Attachment) (pod : Pod) :
    Describes (i.installContainer a pod) pod.containers := by
  have hvars := Injection.envVars_installContainer i a pod
  refine describes_of_lists ?_ ?_
  · rw [valueOf, Container.findEnv?, hvars, List.cons_append,
      List.find?_cons_of_pos (by simp [EnvVar.plain])]
    rfl
  · have hfixed : Lists (.plain countEnv (toString pod.containers.length) ::
        i.fixedVars a pod.metadata) 1 pod.containers := by
      refine lists_of_no_entry (fun e he => ?_) 1 pod.containers
      rcases List.mem_cons.mp he with rfl | he
      · exact isEntryName_countEnv
      · exact Injection.isEntryName_of_mem_fixedVars he
    have hentries : Lists (Injection.freshEntries a pod.containers) 1 pod.containers := by
      unfold Injection.freshEntries
      split
      · exact lists_allEntriesFrom pod.containers 1
      · exact fun _ he => absurd he List.not_mem_nil
    rw [hvars]
    exact hfixed.append hentries

end InstallContainer

/-! ## 4. Described Pods -/

/-- The install container describes the application containers. -/
def Pod.Described (p : Pod) : Prop :=
  ∃ install, InstallContainer.find? p = some install ∧
    InstallContainer.Describes install p.containers

theorem Pod.described_iff {p : Pod} {install : Container}
    (h : InstallContainer.find? p = some install) :
    p.Described ↔ InstallContainer.Describes install p.containers := by
  constructor
  · rintro ⟨install', hfind, hdescribes⟩
    rw [h] at hfind
    rw [Option.some.inj hfind]
    exact hdescribes
  · exact fun hdescribes => ⟨install, h, hdescribes⟩

namespace Injection

open InstallContainer

variable {i : Injection} {pod : Pod}

/-- **A fresh injection describes the Pod.** -/
theorem described_inject (h : find? pod = none) : (i.inject pod).Described := by
  refine ⟨i.installContainer i.attachment pod, find?_inject h, ?_⟩
  rw [containers_inject, describes_map_iff (Attachment.name_attach _) (Attachment.image_attach _)]
  exact describes_installContainer i i.attachment pod

/-- A repair without the agent leaves the install container as it is. -/
theorem find?_repair_of_agentless (h : i.features.oneAgent = false) :
    find? (i.repair pod).1 = find? pod := by
  rw [find?_eq, find?_eq, initContainers_repair, repairedInit, isSome_agent_repairAttachment, h,
    if_neg Bool.false_ne_true]

/-- **A repair describes the Pod if the agent is on**, and else leaves the description as it is. -/
theorem described_repair_iff {install : Container} (h : find? pod = some install) :
    (i.repair pod).1.Described ↔ i.features.oneAgent = true ∨ pod.Described := by
  have hsame : Describes install (i.repairedContainers pod) ↔ Describes install pod.containers :=
    describes_map_iff (fun c => Attachment.name_attach _ c) (fun c => Attachment.image_attach _ c)
  rw [Pod.described_iff (find?_repair h), Pod.described_iff h, containers_repair, repairedInstall,
    isSome_agent_repairAttachment]
  cases i.features.oneAgent with
  | true =>
    rw [if_pos rfl]
    exact iff_of_true (describes_sync install _) (.inl rfl)
  | false =>
    rw [if_neg Bool.false_ne_true, hsame]
    exact ⟨.inr, fun h => h.resolve_left Bool.false_ne_true⟩

end Injection

/-! ## 5. Along a career -/

namespace Admission

/-- What others do to a Pod, as long as they leave the marker and the init containers alone. -/
structure LeavesInstall (p p' : Pod) : Prop where
  marker : LeavesMarker p p'
  init : p'.initContainers = p.initContainers

/-- A Pod has an install container exactly if it has a marker. -/
def Installed (p : Pod) : Prop :=
  (InstallContainer.find? p).isSome = p.metadata.annotationMap.marksInjected

theorem Installed.edited {p p' : Pod} (h : Installed p) (e : LeavesInstall p p') :
    Installed p' := by
  rw [Installed, InstallContainer.find?_eq, e.init, ← InstallContainer.find?_eq,
    marksInjected_congr e.marker]
  exact h

/-- An installed Pod without marker has no install container. -/
theorem Installed.find?_of_unmarked {p : Pod} (h : Installed p)
    (hmarker : p.metadata.annotationMap.marksInjected = false) :
    InstallContainer.find? p = none := by
  rw [Installed, hmarker] at h
  exact Option.isNone_iff_eq_none.mp (Option.isSome_eq_false_iff.mp h)

/-- An installed Pod with marker has an install container. -/
theorem Installed.find?_of_marked {p : Pod} (h : Installed p)
    (hmarker : p.metadata.annotationMap.marksInjected = true) :
    ∃ install, InstallContainer.find? p = some install := by
  rw [Installed, hmarker] at h
  exact Option.isSome_iff_exists.mp h

/-- **A pass brings marker and install container together**, or leaves both. -/
theorem Installed.admitted {a : Pass} (h : Installed a.before) : Installed a.after := by
  cases a.course with
  | injected i binds unmarked any enriches patched after =>
    have hfind := Injection.find?_inject (i := i) (h.find?_of_unmarked unmarked)
    rw [after, Installed, hfind, Injection.annotationMap_inject, marksInjected_records any]
    rfl
  | repaired i binds marked patched after =>
    obtain ⟨install, hfind⟩ := h.find?_of_marked marked
    have hmarked : a.before.metadata.annotationMap.marksInjected = true := marked
    rw [after, Installed, Injection.find?_repair hfind, Injection.metadata_repair, hmarked]
    rfl
  | kept patched after =>
    rw [after]
    exact h

/-- Every pass of a career meets an installed Pod, if the Pod was so at the start. -/
theorem Career.installed {start p : Pod} {passes : List Pass} (hstart : Installed start)
    (h : Career LeavesInstall start passes p) :
    Installed p ∧ ∀ a ∈ passes, Installed a.before :=
  h.invariant hstart (fun hp e => hp.edited e) Installed.admitted

/-- **A repair with the agent describes the Pod as it is now.**  In every career of a Pod that starts
without marker and install container, and in which others leave both alone, a first injection
describes the Pod.  A later patch leaves it described exactly if the agent is on or the Pod was
described before; without the agent the install container stays as it is. -/
theorem Career.described_of_patched {start p : Pod} {passes : List Pass}
    (hmarker : start.metadata.annotationMap.marksInjected = false)
    (hfind : InstallContainer.find? start = none)
    (h : Career LeavesInstall start passes p) :
    ∀ a ∈ passes, a.patched = true →
      if a.marked then
        (a.after.Described ↔ a.features.oneAgent = true ∨ a.before.Described) ∧
          (a.features.oneAgent = false →
            InstallContainer.find? a.after = InstallContainer.find? a.before)
      else a.after.Described := by
  have hstart : Installed start := by
    rw [Installed, hfind, hmarker]
    rfl
  intro a ha hpatched
  have hinstalled := (h.installed hstart).2 a ha
  cases a.course with
  | injected i binds unmarked any enriches patched after =>
    rw [unmarked, if_neg Bool.false_ne_true, after]
    exact Injection.described_inject (hinstalled.find?_of_unmarked unmarked)
  | repaired i binds marked patched after =>
    obtain ⟨install, hinstall⟩ := hinstalled.find?_of_marked marked
    rw [marked, if_pos rfl, after, ← binds.features]
    exact ⟨Injection.described_repair_iff hinstall, Injection.find?_repair_of_agentless⟩
  | kept patched =>
    rw [hpatched] at patched
    exact Bool.noConfusion patched

/-- A sidecar leaves the install container alone. -/
theorem leavesInstall_withMesh (p : Pod) : LeavesInstall p (withMesh p) where
  marker := rfl
  init := Pod.initContainers_withContainers p _

/-- The web application is injected with the agent, and the sidecar it gets is described too. -/
theorem described_of_mesh :
    Career LeavesInstall Injection.webPod [shopPass meshPod, shopPass Injection.webPod]
        (shopPass meshPod).after ∧
      Injection.webPod.metadata.annotationMap.marksInjected = false ∧
      InstallContainer.find? Injection.webPod = none ∧
      (shopPass meshPod).patched = true ∧ (shopPass meshPod).after.Described := by
  have hcareer : Career LeavesInstall Injection.webPod
      [shopPass meshPod, shopPass Injection.webPod] (shopPass meshPod).after :=
    .admitted (.edited (.admitted .start) (leavesInstall_withMesh _))
  have hmarked : (shopPass meshPod).marked = true := by decide +kernel
  have hpatched : (shopPass meshPod).patched = true := by decide +kernel
  have hdescribed := Career.described_of_patched rfl rfl hcareer (shopPass meshPod)
    List.mem_cons_self hpatched
  rw [hmarked, if_pos rfl] at hdescribed
  exact ⟨hcareer, rfl, rfl, hpatched, hdescribed.1.mpr (.inl (by decide +kernel))⟩

/-- The web application with the agent switched off is injected, and then gets a sidecar. -/
def agentlessMeshPod : Pod := withMesh (shopPass agentOffPod).after

/-- **A repair for enrichment alone leaves a stale description.**  The sidecar is given enrichment,
and there are two containers now, but the install container still counts one. -/
theorem not_described_of_enrichment :
    Career LeavesInstall agentOffPod [shopPass agentlessMeshPod, shopPass agentOffPod]
        (shopPass agentlessMeshPod).after ∧
      agentOffPod.metadata.annotationMap.marksInjected = false ∧
      InstallContainer.find? agentOffPod = none ∧
      (shopPass agentlessMeshPod).marked = true ∧ (shopPass agentlessMeshPod).patched = true ∧
      ¬ (shopPass agentlessMeshPod).after.Described := by
  have hcareer : Career LeavesInstall agentOffPod
      [shopPass agentlessMeshPod, shopPass agentOffPod] (shopPass agentlessMeshPod).after :=
    .admitted (.edited (.admitted .start) (leavesInstall_withMesh _))
  refine ⟨hcareer, rfl, rfl, by decide +kernel, by decide +kernel, ?_⟩
  rintro ⟨install, hfind, hdescribes⟩
  have hcount : (InstallContainer.find? (shopPass agentlessMeshPod).after).map
      (InstallContainer.valueOf · "CONTAINERS_COUNT") = some "1" := by decide +kernel
  have hlength : (shopPass agentlessMeshPod).after.containers.length = 2 := by decide +kernel
  have hdescribed := hdescribes.count
  rw [hlength] at hdescribed
  rw [hfind, Option.map_some, hdescribed] at hcount
  exact absurd hcount (by decide)

end Admission
end InjectionWebhook
