/-
# Entries and positions

Containers come, go and change places, and then the entries of the install container are written
anew.  `Renumbers` says what that comes to, by names alone.  The variables of an install container
fall into those with the name of an entry and the others (`NamesEntry`); afterwards the former are
the entries of the containers that carry the agent, in the order of the containers, and the latter
are the old ones with the new number of containers among them (`Recounted`).

The two kinds do not mix: whatever is written as an entry has the name of one, nothing that a fresh
install container holds has, and two entries never share a name.  So the names stay distinct if those
of the other variables were (`renumbers_sync`, `sync_renumbers`).
-/
import InjectionWebhook.Proofs.Description

namespace InjectionWebhook
namespace InstallContainer

/-! ## 1. Entries by position -/

/-- The entries of the containers that carry the agent go by their positions. -/
theorem entriesFrom_eq_flatMap : ∀ (cs : List Container) (position : Nat),
    entriesFrom position cs =
      (cs.zipIdx position).flatMap fun (c, n) => if c.hasAgent then entry n c else []
  | [], _ => rfl
  | c :: cs, position => by
    rw [entriesFrom, List.zipIdx_cons, List.flatMap_cons, entriesFrom_eq_flatMap cs (position + 1)]

/-- The names of entries from a position on tell positions from there on. -/
theorem exists_position_of_mem_entriesFrom {e : EnvVar} :
    ∀ {cs : List Container} {position : Nat}, e ∈ entriesFrom position cs →
      ∃ n, position ≤ n ∧ (e.name = entryNameEnv n ∨ e.name = entryImageEnv n)
  | [], _, h => absurd h List.not_mem_nil
  | c :: cs, position, h => by
    rcases List.mem_append.mp h with h | h
    · split at h
      · simp only [entry, List.mem_cons, List.not_mem_nil, or_false] at h
        rcases h with rfl | rfl
        · exact ⟨position, Nat.le_refl _, .inl rfl⟩
        · exact ⟨position, Nat.le_refl _, .inr rfl⟩
      · exact absurd h List.not_mem_nil
    · obtain ⟨n, hn, hname⟩ := exists_position_of_mem_entriesFrom h
      exact ⟨n, by omega, hname⟩

/-- **No two entries share a name.** -/
theorem nodup_names_entriesFrom : ∀ (cs : List Container) (position : Nat),
    ((entriesFrom position cs).map (·.name)).Nodup
  | [], _ => List.nodup_nil
  | c :: cs, position => by
    have hrest := nodup_names_entriesFrom cs (position + 1)
    rw [entriesFrom]
    split
    · have hlater : ∀ name ∈ (entriesFrom (position + 1) cs).map (·.name),
          name ≠ entryNameEnv position ∧ name ≠ entryImageEnv position := by
        intro name hname
        obtain ⟨e, he, rfl⟩ := List.mem_map.mp hname
        obtain ⟨n, hn, hname | hname⟩ := exists_position_of_mem_entriesFrom he
        · rw [hname]
          exact ⟨fun h => by have := entryNameEnv_inj h; omega,
            entryNameEnv_ne_entryImageEnv n position⟩
        · rw [hname]
          exact ⟨(entryNameEnv_ne_entryImageEnv position n).symm,
            fun h => by have := entryImageEnv_inj h; omega⟩
      have himage : entryImageEnv position ∉ (entriesFrom (position + 1) cs).map (·.name) :=
        fun h => (hlater _ h).2 rfl
      have hname : entryNameEnv position ∉
          entryImageEnv position :: (entriesFrom (position + 1) cs).map (·.name) := by
        intro h
        rcases List.mem_cons.mp h with h | h
        · exact entryNameEnv_ne_entryImageEnv _ _ h
        · exact (hlater _ h).1 rfl
      exact List.nodup_cons.mpr ⟨hname, List.nodup_cons.mpr ⟨himage, hrest⟩⟩
    · exact hrest

/-! ## 2. The count -/

/-- The number of containers is set: in the first variable that has the name, or in a new one at the
end if there is none. -/
def Recounted (n : Nat) (before after : List EnvVar) : Prop :=
  (∃ front e back, (∀ d ∈ front, d.name ≠ "CONTAINERS_COUNT") ∧ e.name = "CONTAINERS_COUNT" ∧
    before = front ++ e :: back ∧ after = front ++ { e with value := some (toString n) } :: back) ∨
  (∀ d ∈ before, d.name ≠ "CONTAINERS_COUNT") ∧
    after = before ++ [.plain "CONTAINERS_COUNT" (toString n)]

theorem recounted_setVar (n : Nat) : ∀ vars : List EnvVar,
    Recounted n vars (setVar countEnv (toString n) vars)
  | [] => .inr ⟨fun _ h => absurd h List.not_mem_nil, rfl⟩
  | e :: vars => by
    rw [setVar]
    by_cases he : e.name = countEnv
    · rw [if_pos he]
      exact .inl ⟨[], e, vars, fun _ h => absurd h List.not_mem_nil, he, rfl, rfl⟩
    · rw [if_neg he]
      rcases recounted_setVar n vars with ⟨front, d, back, hfront, hd, hvars, hset⟩ | ⟨hnone, hset⟩
      · refine .inl ⟨e :: front, d, back, List.forall_mem_cons.mpr ⟨he, hfront⟩, hd, ?_, ?_⟩
        · rw [hvars, List.cons_append]
        · rw [hset, List.cons_append]
      · exact .inr ⟨List.forall_mem_cons.mpr ⟨he, hnone⟩, by rw [hset, List.cons_append]⟩

/-- Setting the number gives no name twice. -/
theorem Recounted.nodup {n : Nat} {before after : List EnvVar} (h : Recounted n before after)
    (hbefore : (before.map (·.name)).Nodup) : (after.map (·.name)).Nodup := by
  rcases h with ⟨front, e, back, -, -, rfl, rfl⟩ | ⟨hnone, rfl⟩
  · simpa using hbefore
  · have hcount : "CONTAINERS_COUNT" ∉ before.map (·.name) := by
      intro hmem
      obtain ⟨d, hd, hname⟩ := List.mem_map.mp hmem
      exact hnone d hd hname
    have hnames : (before ++ [EnvVar.plain "CONTAINERS_COUNT" (toString n)]).map (·.name) =
        before.map (·.name) ++ ["CONTAINERS_COUNT"] := by
      rw [List.map_append, List.map_singleton]
      rfl
    rw [hnames, List.nodup_append]
    refine ⟨hbefore, List.pairwise_singleton _ _, fun name hname other hother heq => hcount ?_⟩
    rw [← List.mem_singleton.mp hother, ← heq]
    exact hname

/-! ## 3. Two kinds of variables -/

/-- The variables with the name of an entry. -/
def entriesOf (vars : List EnvVar) : List EnvVar := vars.filter fun e => NamesEntry e.name

/-- The variables without the name of an entry. -/
def nonEntriesOf (vars : List EnvVar) : List EnvVar := vars.filter fun e => ¬ NamesEntry e.name

theorem entriesOf_eq (vars : List EnvVar) :
    entriesOf vars = vars.filter fun e => isEntryName e.name := by
  simp only [entriesOf, decide_namesEntry]

theorem nonEntriesOf_eq (vars : List EnvVar) :
    nonEntriesOf vars = vars.filter fun e => !isEntryName e.name := by
  simp only [nonEntriesOf, decide_not, decide_namesEntry]

/-- Every variable is of one kind. -/
theorem perm_kinds (vars : List EnvVar) : (entriesOf vars ++ nonEntriesOf vars).Perm vars := by
  rw [entriesOf_eq, nonEntriesOf_eq]
  exact List.filter_append_perm (fun e => isEntryName e.name) vars

/-- Names are distinct if they are within each kind. -/
theorem nodup_names_of_kinds {vars : List EnvVar} (hentries : ((entriesOf vars).map (·.name)).Nodup)
    (hothers : ((nonEntriesOf vars).map (·.name)).Nodup) : (vars.map (·.name)).Nodup := by
  rw [← ((perm_kinds vars).map (·.name)).nodup_iff, List.map_append, List.nodup_append]
  refine ⟨hentries, hothers, fun name hname other hother heq => ?_⟩
  obtain ⟨e, he, rfl⟩ := List.mem_map.mp hname
  obtain ⟨d, hd, rfl⟩ := List.mem_map.mp hother
  have hentry : NamesEntry e.name := of_decide_eq_true (List.mem_filter.mp he).2
  have hother : ¬ NamesEntry d.name := of_decide_eq_true (List.mem_filter.mp hd).2
  exact hother (heq ▸ hentry)

/-- Setting a variable that a test by name leaves out changes nothing that it keeps. -/
theorem filter_setVar_of_not (keep : String → Bool) {name : String} (hname : keep name = false)
    (value : String) : ∀ vars : List EnvVar,
    (setVar name value vars).filter (fun e => keep e.name) = vars.filter fun e => keep e.name
  | [] => by simp [setVar, EnvVar.plain, hname]
  | e :: vars => by
    by_cases he : e.name = name
    · simp [setVar, he, hname]
    · rw [setVar, if_neg he, List.filter_cons, List.filter_cons,
        filter_setVar_of_not keep hname value vars]

theorem entriesOf_sync (install : Container) (cs : List Container) :
    entriesOf (sync install cs).envVars = entriesFrom 1 cs := by
  have hothers : (install.envVars.filter fun e => !isEntryName e.name).filter
      (fun e => isEntryName e.name) = [] := by
    refine List.filter_eq_nil_iff.mpr fun e he hentry => ?_
    have hnot := (List.mem_filter.mp he).2
    rw [hentry] at hnot
    exact Bool.false_ne_true hnot
  have hentries : (entriesFrom 1 cs).filter (fun e => isEntryName e.name) = entriesFrom 1 cs :=
    List.filter_eq_self.mpr fun _ => isEntryName_of_mem_entriesFrom
  rw [entriesOf_eq, envVars_sync, filter_setVar_of_not isEntryName isEntryName_countEnv,
    List.filter_append, hothers, hentries, List.nil_append]

theorem nonEntriesOf_sync (install : Container) (cs : List Container) :
    nonEntriesOf (sync install cs).envVars =
      setVar countEnv (toString cs.length) (nonEntriesOf install.envVars) := by
  rw [nonEntriesOf_eq, nonEntriesOf_eq, filter_envVars_sync]

/-! ## 4. Writing the entries anew -/

/-- An install container after the entries were written anew for containers. -/
structure Renumbers (install after : Container) (cs : List Container) : Prop where
  /-- There is one pair for each container that carries the agent, in increasing position. -/
  entries : entriesOf after.envVars = (cs.zipIdx 1).flatMap fun (c, n) =>
    if c.hasEnv "LD_PRELOAD" then
      [ .plain ("CONTAINER_" ++ toString n ++ "_NAME") c.name,
        .plain ("CONTAINER_" ++ toString n ++ "_IMAGE") (c.image.getD "") ]
    else []
  others : Recounted cs.length (nonEntriesOf install.envVars) (nonEntriesOf after.envVars)
  env : after.env = some after.envVars
  rest : after = { install with env := after.env }
  distinct : ((nonEntriesOf install.envVars).map (·.name)).Nodup → (after.envVars.map (·.name)).Nodup

theorem renumbers_sync (install : Container) (cs : List Container) :
    Renumbers install (sync install cs) cs where
  entries := by
    rw [entriesOf_sync, entriesFrom_eq_flatMap]
    rfl
  others := by
    rw [nonEntriesOf_sync]
    exact recounted_setVar cs.length _
  env := rfl
  rest := rfl
  distinct h := by
    refine nodup_names_of_kinds ?_ ?_
    · rw [entriesOf_sync]
      exact nodup_names_entriesFrom cs 1
    · rw [nonEntriesOf_sync]
      exact (recounted_setVar cs.length _).nodup h

/-- Only the variables can make a difference. -/
theorem isStale_iff (install : Container) (cs : List Container) :
    isStale install cs = true ↔ sync install cs ≠ install := by
  rw [isStale, decide_eq_true_iff, not_iff_not]
  constructor
  · intro h
    rw [(renumbers_sync install cs).rest, h]
  · exact congrArg Container.env

/-- No variable of a fresh install container has the name of an entry. -/
theorem not_namesEntry_of_mem_build {pod : Pod} {settings : InstallSettings}
    {config : WorkloadConfig} {features : Features} {workload : Option Workload} {e : EnvVar}
    (h : e ∈ (build pod settings config features workload).envVars) : ¬ NamesEntry e.name := by
  have hnames : ∀ name ∈ countEnv :: Injection.fixedNames, ¬ NamesEntry name := by
    intro name hname hentry
    have hall : ∀ name ∈ countEnv :: Injection.fixedNames, isEntryName name = false := by decide
    rw [← isEntryName_iff, hall name hname] at hentry
    exact Bool.false_ne_true hentry
  have hall : ∀ e ∈ (build pod settings config features workload).envVars,
      e.name ∈ countEnv :: Injection.fixedNames := by
    unfold build agentVars
    cases features.oneAgent <;> cases workload.filter fun _ => features.dataIngest <;>
      simp [Container.envVars, podVars, enrichmentVars, EnvVar.plain, EnvVar.ofField,
        Injection.fixedNames]
  exact hnames e.name (hall e h)

/-- **Writing the entries anew writes those of the containers as they are, and nothing else.**  It is
reported as a change exactly if it is one.  The names that are taken for entries are those of digits
between the two fixed parts; every name under which a container is entered is one of them, at any
position, and no name in a fresh install container is. -/
theorem sync_renumbers (install : Container) (cs : List Container) :
    Renumbers install (sync install cs) cs ∧
      (isStale install cs = true ↔ (sync install cs).env ≠ install.env) ∧
      (isStale install cs = true ↔ sync install cs ≠ install) ∧
      (∀ name, isEntryName name = true ↔ NamesEntry name) ∧
      (∀ n c, ∃ added, (addEntry install n c).envVars = install.envVars ++ added ∧
        added.map (·.name) = ["CONTAINER_" ++ toString n ++ "_NAME",
          "CONTAINER_" ++ toString n ++ "_IMAGE"] ∧
        ∀ e ∈ added, NamesEntry e.name) ∧
      ∀ pod settings config features workload,
        ∀ e ∈ (build pod settings config features workload).envVars, ¬ NamesEntry e.name := by
  refine ⟨renumbers_sync install cs, decide_eq_true_iff, isStale_iff install cs, isEntryName_iff,
    fun n c => ?_, fun _ _ _ _ _ _ => not_namesEntry_of_mem_build⟩
  exact ⟨entry n c, rfl, rfl, fun e he => (isEntryName_iff e.name).mp (isEntryName_of_mem_entry he)⟩

/-- An install container whose variables stand in no order, with two old entries and with names that
come close to one. -/
def scrambledInstall : Container :=
  { name
    env := some
      [ .plain "CONTAINER_2_NAME" "gone", .plain "MODE" "installer",
        .plain "CONTAINER__NAME" "x", .plain "CONTAINERS_COUNT" "9",
        .ofField "CONTAINER_1_IMAGES" "spec.x", .plain "CONTAINER_07_IMAGE" "old:1",
        .plain "CONTAINER_2_NAME_IMAGE" "y" ] }

/-- Three containers, the second one without the agent. -/
def mixedContainers : List Container :=
  [ { name := "web", image := some "web:1", env := some [.plain "LD_PRELOAD" "/a"] },
    { name := "mesh", image := some "mesh:1" },
    { name := "job", env := some [.plain "A" "b", .plain "LD_PRELOAD" "/c"] } ]

/-- Names stay distinct, and only the entries and the count are new. -/
theorem sync_renumbers_scrambled :
    ((sync scrambledInstall mixedContainers).envVars.map (·.name)).Nodup ∧
      isStale scrambledInstall mixedContainers = true ∧
      (sync scrambledInstall mixedContainers).envVars =
        [ .plain "MODE" "installer", .plain "CONTAINER__NAME" "x", .plain "CONTAINERS_COUNT" "3",
          .ofField "CONTAINER_1_IMAGES" "spec.x", .plain "CONTAINER_2_NAME_IMAGE" "y",
          .plain "CONTAINER_1_NAME" "web", .plain "CONTAINER_1_IMAGE" "web:1",
          .plain "CONTAINER_3_NAME" "job", .plain "CONTAINER_3_IMAGE" "" ] := by
  obtain ⟨hsync, hstale, -⟩ := sync_renumbers scrambledInstall mixedContainers
  exact ⟨hsync.distinct (by decide), hstale.mpr (by decide), by decide⟩

end InstallContainer
end InjectionWebhook
