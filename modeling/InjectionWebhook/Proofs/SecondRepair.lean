/-
# A second repair

A repair that runs on what a repair left finds nothing to give: the workload is read back as before
(`repairAttachment_repair`), and every container carries what it could be given
(`isEmpty_lacking_attach_lacking`).  What may change is the order of the install container's
variables.  If the install container had no count, the first repair adds one behind the entries; the
second one takes the entries out and puts them back, and then the count stands in front of them.

So a repair settles at once exactly if the Pod is not `Unnumbered`, and after two passes always
(`repair_settles_iff`).
-/
import InjectionWebhook.Proofs.RepairAgreement
import InjectionWebhook.Proofs.RepairReach

namespace InjectionWebhook

/-! ## 1. Writing entries twice -/

namespace InstallContainer

/-- The first variable with a name is set where it is. -/
theorem setVar_append_of_any {name : String} (value : String) (more : List EnvVar) :
    ∀ {vars : List EnvVar}, vars.any (fun e => decide (e.name = name)) = true →
      setVar name value (vars ++ more) = setVar name value vars ++ more
  | [], h => absurd h Bool.false_ne_true
  | e :: vars, h => by
    by_cases he : e.name = name
    · simp [setVar, he]
    · have hvars : vars.any (fun e => decide (e.name = name)) = true := by
        simpa [he] using h
      simp [setVar, he, setVar_append_of_any value more hvars]

/-- Without a variable of the name, one is added at the end. -/
theorem setVar_of_not_any {name : String} (value : String) :
    ∀ {vars : List EnvVar}, vars.any (fun e => decide (e.name = name)) = false →
      setVar name value vars = vars ++ [.plain name value]
  | [], _ => rfl
  | e :: vars, h => by
    obtain ⟨he, hvars⟩ : e.name ≠ name ∧ vars.any (fun e => decide (e.name = name)) = false := by
      simpa using h
    simp [setVar, he, setVar_of_not_any value hvars]

theorem any_setVar (name value : String) (vars : List EnvVar) :
    (setVar name value vars).any (fun e => decide (e.name = name)) = true := by
  induction vars with
  | nil => simp [setVar, EnvVar.plain]
  | cons e vars ih =>
    by_cases he : e.name = name
    · simp [setVar, he]
    · rw [setVar, if_neg he, List.any_cons, ih, Bool.or_true]

theorem setVar_setVar (name value : String) (vars : List EnvVar) :
    setVar name value (setVar name value vars) = setVar name value vars := by
  induction vars with
  | nil => simp [setVar, EnvVar.plain]
  | cons e vars ih =>
    by_cases he : e.name = name
    · simp [setVar, he]
    · simp [setVar, he, ih]

/-- The count is no entry, so taking the entries out keeps it. -/
theorem any_countEnv_filter (vars : List EnvVar) :
    (vars.filter fun e => !isEntryName e.name).any (fun e => decide (e.name = countEnv)) =
      vars.any fun e => decide (e.name = countEnv) := by
  rw [List.any_filter]
  refine congrArg vars.any (funext fun e => ?_)
  by_cases he : e.name = countEnv
  · simp [he, isEntryName_countEnv]
  · simp [he]

theorem any_countEnv_entriesFrom (n : Nat) (cs : List Container) :
    (entriesFrom n cs).any (fun e => decide (e.name = countEnv)) = false := by
  refine List.any_eq_false.mpr fun e he hname => ?_
  have hentry := isEntryName_of_mem_entriesFrom he
  rw [of_decide_eq_true hname, isEntryName_countEnv] at hentry
  exact Bool.false_ne_true hentry

/-- Writing anew, there is a count. -/
theorem hasEnv_countEnv_sync (install : Container) (cs : List Container) :
    (sync install cs).hasEnv countEnv = true := by
  rw [Container.hasEnv_eq_any, envVars_sync]
  exact any_setVar _ _ _

/-- With a count to set, entries are written to the same effect twice. -/
theorem sync_sync_of_hasEnv {install : Container} (h : install.hasEnv countEnv = true)
    (cs : List Container) : sync (sync install cs) cs = sync install cs := by
  have hcount : (install.envVars.filter fun e => !isEntryName e.name).any
      (fun e => decide (e.name = countEnv)) = true := by
    rw [any_countEnv_filter, ← Container.hasEnv_eq_any, h]
  have hvars : (sync (sync install cs) cs).envVars = (sync install cs).envVars := by
    rw [envVars_sync (sync install cs), filter_envVars_sync, envVars_sync,
      setVar_append_of_any _ _ (any_setVar _ _ _), setVar_setVar,
      setVar_append_of_any _ _ hcount]
  rw [sync_eq (sync install cs), hvars]
  rfl

/-- Without one, the count moves in front of the entries the second time. -/
theorem sync_sync_of_not_hasEnv {install : Container} (h : install.hasEnv countEnv = false)
    (cs : List Container) :
    sync (sync install cs) cs = sync install cs ↔ entriesFrom 1 cs = [] := by
  have hcount : (install.envVars.filter fun e => !isEntryName e.name).any
      (fun e => decide (e.name = countEnv)) = false := by
    rw [any_countEnv_filter, ← Container.hasEnv_eq_any, h]
  have hfirst : (sync install cs).envVars =
      (install.envVars.filter fun e => !isEntryName e.name) ++
        (entriesFrom 1 cs ++ [.plain countEnv (toString cs.length)]) := by
    rw [envVars_sync, setVar_of_not_any, List.append_assoc]
    rw [List.any_append, hcount, any_countEnv_entriesFrom, Bool.false_or]
  have hsecond : (sync (sync install cs) cs).envVars =
      (install.envVars.filter fun e => !isEntryName e.name) ++
        (.plain countEnv (toString cs.length) :: entriesFrom 1 cs) := by
    rw [envVars_sync (sync install cs), filter_envVars_sync,
      setVar_append_of_any _ _ (any_setVar _ _ _), setVar_setVar, setVar_of_not_any _ hcount,
      List.append_assoc, List.singleton_append]
  constructor
  · intro heq
    have hvars := congrArg Container.envVars heq
    rw [hfirst, hsecond, List.append_cancel_left_eq] at hvars
    cases hentries : entriesFrom 1 cs with
    | nil => rfl
    | cons e rest =>
      -- The first entry would be the count.
      have hname := isEntryName_of_mem_entriesFrom (hentries ▸ List.mem_cons_self : e ∈ _)
      rw [hentries, List.cons_append, List.cons.injEq] at hvars
      rw [← hvars.1, EnvVar.plain, isEntryName_countEnv] at hname
      exact absurd hname Bool.false_ne_true
  · intro hnone
    have hvars : (sync (sync install cs) cs).envVars = (sync install cs).envVars := by
      rw [hfirst, hsecond, hnone, List.nil_append]
    rw [sync_eq (sync install cs), hvars]
    rfl

end InstallContainer

namespace Injection

/-! ## 2. Giving twice -/

/-- **What was given is not lacking any more**, whether there is an install container or not. -/
theorem isEmpty_lacking_attach_lacking (a : Attachment) (installed : Bool) (c : Container) :
    (lacking a installed ((lacking a installed c).attach c)).isEmpty = true := by
  unfold lacking Attachment.isEmpty
  rw [Attachment.agent_only, Attachment.enrichment_only, Attachment.hasAgent_attach,
    Attachment.hasEnrichment_attach, Attachment.agent_only, Attachment.enrichment_only]
  cases a.agent <;> cases a.enrichment <;> cases c.hasAgent <;> cases c.hasEnrichment <;>
    cases installed <;> simp

variable {i : Injection} {pod : Pod}

/-- Without an install container there is none after a repair. -/
theorem find?_repair_of_none (h : InstallContainer.find? pod = none) :
    InstallContainer.find? (i.repair pod).1 = none := by
  rw [InstallContainer.find?_eq] at h ⊢
  rw [initContainers_repair, repairedInit, replaceFirst_of_find?_eq_none h, ite_self]
  exact h

theorem workload?_repairedInstall (i : Injection) (pod : Pod) (install : Container) :
    InstallContainer.workload? (i.repairedInstall pod install) =
      InstallContainer.workload? install := by
  unfold InstallContainer.workload? InstallContainer.valueOf Container.hasEnv
  rw [findEnv?_repairedInstall (by decide) (by decide),
    findEnv?_repairedInstall (by decide) (by decide)]

/-- **A second repair wants what the first one wanted.** -/
theorem repairAttachment_repair (i : Injection) (pod : Pod) :
    i.repairAttachment (i.repair pod).1 = i.repairAttachment pod := by
  unfold repairAttachment forRepair
  cases hfind : InstallContainer.find? pod with
  | none => rw [find?_repair_of_none hfind]
  | some install =>
    rw [find?_repair hfind, Option.bind_some, Option.bind_some, workload?_repairedInstall]

/-- No container of a repaired Pod lacks anything. -/
theorem isEmpty_lackingIn_repair {c : Container} (h : c ∈ (i.repair pod).1.containers) :
    (i.lackingIn (i.repair pod).1 c).isEmpty = true := by
  have hinstalled : (InstallContainer.find? (i.repair pod).1).isSome =
      (InstallContainer.find? pod).isSome := by
    cases hfind : InstallContainer.find? pod with
    | none => rw [find?_repair_of_none hfind]
    | some install => rw [find?_repair hfind, Option.isSome_some, Option.isSome_some]
  rw [containers_repair] at h
  obtain ⟨c, -, rfl⟩ := List.mem_map.mp h
  rw [lackingIn, repairAttachment_repair, hinstalled]
  exact isEmpty_lacking_attach_lacking _ _ c

/-- A second repair changes nothing if writing the entries anew changes nothing. -/
theorem repair_repair_iff (i : Injection) (pod : Pod) :
    i.repair (i.repair pod).1 = ((i.repair pod).1, false) ↔
      (i.features.oneAgent = true → ∀ install, InstallContainer.find? pod = some install →
        InstallContainer.sync (InstallContainer.sync install (i.repairedContainers pod))
          (i.repairedContainers pod) =
        InstallContainer.sync install (i.repairedContainers pod)) := by
  have hcontainers : i.repairedContainers (i.repair pod).1 = i.repairedContainers pod := by
    rw [(repairedContainers_eq_iff _ _).mpr fun c hc => isEmpty_lackingIn_repair hc,
      containers_repair]
  constructor
  · intro hsettled hagent install hfind
    have hsome : (i.repairAttachment pod).agent.isSome = true := by
      rw [isSome_agent_repairAttachment, hagent]
    have honce : InstallContainer.find? (i.repair pod).1 =
        some (InstallContainer.sync install (i.repairedContainers pod)) := by
      rw [find?_repair hfind, repairedInstall, if_pos hsome]
    have htwice := find?_repair (i := i) honce
    rw [hsettled, honce, repairedInstall, repairAttachment_repair, if_pos hsome, hcontainers]
      at htwice
    exact (Option.some.inj htwice).symm
  · intro hsynced
    refine repair_of_settled (fun c hc => isEmpty_lackingIn_repair hc) ?_
    intro hsome install' honce
    rw [repairAttachment_repair] at hsome
    cases hfind : InstallContainer.find? pod with
    | none =>
      rw [find?_repair_of_none hfind] at honce
      exact absurd honce (by simp)
    | some install =>
      rw [find?_repair hfind, repairedInstall, if_pos hsome] at honce
      rw [← Option.some.inj honce, containers_repair]
      rw [isSome_agent_repairAttachment] at hsome
      exact hsynced hsome install hfind

/-! ## 3. Settling -/

/-- With the agent on, a repair has entries to write into an install container without a count. -/
structure Unnumbered (i : Injection) (pod : Pod) : Prop where
  agent : i.features.oneAgent = true
  containers : pod.containers ≠ []
  install : ∃ install ∈ InstallContainer.find? pod,
    install.hasEnv InstallContainer.countEnv = false

/-- With the agent and an install container, every container gets an entry. -/
theorem entriesFrom_repairedContainers_eq_nil_iff (hagent : i.features.oneAgent = true)
    {install : Container} (hfind : InstallContainer.find? pod = some install) :
    InstallContainer.entriesFrom 1 (i.repairedContainers pod) = [] ↔ pod.containers = [] := by
  constructor
  · intro hnone
    cases hcs : pod.containers with
    | nil => rfl
    | cons c cs =>
      have hcarries : ((i.lackingIn pod c).attach c).hasAgent = true := by
        refine hasAgent_of_mem_repairedContainers hagent hfind ?_
        rw [repairedContainers, hcs]
        exact List.mem_cons_self
      rw [repairedContainers, hcs, List.map_cons, InstallContainer.entriesFrom, if_pos hcarries,
        InstallContainer.entry] at hnone
      exact absurd hnone (by simp)
  · intro hnil
    rw [repairedContainers, hnil]
    rfl

/-- A second repair changes nothing unless the Pod was unnumbered. -/
theorem repair_repair_iff_not_unnumbered (i : Injection) (pod : Pod) :
    i.repair (i.repair pod).1 = ((i.repair pod).1, false) ↔ ¬ i.Unnumbered pod := by
  rw [repair_repair_iff]
  constructor
  · rintro hsynced ⟨hagent, hcs, install, hfind, hcount⟩
    have hnone := (InstallContainer.sync_sync_of_not_hasEnv hcount _).mp
      (hsynced hagent install hfind)
    exact hcs ((entriesFrom_repairedContainers_eq_nil_iff hagent hfind).mp hnone)
  · intro hnumbered hagent install hfind
    cases hcount : install.hasEnv InstallContainer.countEnv with
    | true => exact InstallContainer.sync_sync_of_hasEnv hcount _
    | false =>
      have hnil : pod.containers = [] := by
        by_contra hcs
        exact hnumbered ⟨hagent, hcs, install, hfind, hcount⟩
      exact (InstallContainer.sync_sync_of_not_hasEnv hcount _).mpr
        ((entriesFrom_repairedContainers_eq_nil_iff hagent hfind).mpr hnil)

/-- What a repair leaves is numbered. -/
theorem not_unnumbered_repair (i : Injection) (pod : Pod) : ¬ i.Unnumbered (i.repair pod).1 := by
  rintro ⟨hagent, -, install', honce, hcount⟩
  cases hfind : InstallContainer.find? pod with
  | none =>
    rw [Option.mem_def, find?_repair_of_none hfind] at honce
    exact absurd honce (by simp)
  | some install =>
    rw [Option.mem_def, find?_repair hfind, repairedInstall, if_pos] at honce
    · rw [← Option.some.inj honce, InstallContainer.hasEnv_countEnv_sync] at hcount
      exact Bool.noConfusion hcount
    · rw [isSome_agent_repairAttachment, hagent]

/-- **Repairs settle**: at once unless the Pod was unnumbered, and after two passes always. -/
theorem repair_settles_iff (i : Injection) (pod : Pod) :
    let once := (i.repair pod).1
    let twice := (i.repair once).1
    (i.repair once = (once, false) ↔ ¬ i.Unnumbered pod) ∧ i.repair twice = (twice, false) := by
  intro once twice
  exact ⟨repair_repair_iff_not_unnumbered i pod,
    (repair_repair_iff_not_unnumbered i once).mpr (not_unnumbered_repair i pod)⟩

/-- A web application whose install container was written by somebody else, without variables. -/
def bareInstallPod : Pod :=
  { spec := some
      { containers := [web]
        initContainers := some [{ name := InstallContainer.name }] } }

/-- **One pass is not always enough**: the second repair moves the count in front of the entries. -/
theorem bareInstallPod_unsettled :
    fullInjection.Unnumbered bareInstallPod ∧
      (fullInjection.repair (fullInjection.repair bareInstallPod).1).2 = true ∧
      (fullInjection.repair (fullInjection.repair bareInstallPod).1).1 ≠
        (fullInjection.repair bareInstallPod).1 := by
  refine ⟨⟨rfl, by decide, _, rfl, by decide⟩, by decide +kernel, by decide +kernel⟩

end Injection
end InjectionWebhook
