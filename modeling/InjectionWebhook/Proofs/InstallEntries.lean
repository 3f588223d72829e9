/-
# The entries of the install container

Every name that `InstallContainer.entry` writes is recognised as an entry, whatever the position
(`isEntryName_entryNameEnv`, `isEntryName_entryImageEnv`).  So `InstallContainer.sync` takes out
exactly what was written before, and nothing else:

* `envVars_sync_of_layout`: an install container that starts with the count and ends with entries
  has the same layout afterwards, with the count and the entries of the containers as they are now;
* `findEnv?_sync`: a variable that is neither an entry nor the count is found as before;
* `others_sync`: the variables besides the entries and the count stay, in their order.
-/
import InjectionWebhook.Injection.Inject
import InjectionWebhook.Proofs.Attachment

namespace InjectionWebhook
namespace InstallContainer

/-! ## 1. Names of entries -/

theorem stripFront_append (xs ys : List Char) :
    isEntryName.stripFront xs (xs ++ ys) = some ys := by
  induction xs with
  | nil => cases ys <;> rfl
  | cons x xs ih => simp [isEntryName.stripFront, ih]

theorem stripBack_append (ending xs : List Char) :
    isEntryName.stripBack ending (xs ++ ending) = some xs := by
  rw [isEntryName.stripBack, List.reverse_append, stripFront_append, Option.map_some,
    List.reverse_reverse]

/-- The ending of an image entry is not taken for that of a name entry. -/
theorem stripBack_name_image (xs : List Char) :
    isEntryName.stripBack "_NAME".toList (xs ++ "_IMAGE".toList) = none := by
  have h : (xs ++ "_IMAGE".toList).reverse =
      'E' :: 'G' :: 'A' :: 'M' :: 'I' :: '_' :: xs.reverse := by simp
  rw [isEntryName.stripBack, h]
  rfl

/-- A position is written with digits only, and with one at least. -/
theorem digits_toString (n : Nat) :
    (!(toString n).toList.isEmpty && (toString n).toList.all Char.isDigit) = true := by
  have hne : Nat.toDigits 10 n ≠ [] :=
    List.ne_nil_of_length_pos Nat.length_toDigits_pos
  have hall : (Nat.toDigits 10 n).all Char.isDigit = true :=
    List.all_eq_true.mpr fun _ hc => Nat.isDigit_of_mem_toDigits (by decide) (by decide) hc
  rw [Nat.toString_eq_repr, Nat.toList_repr, hall, List.isEmpty_eq_false_iff.mpr hne]
  rfl

@[simp] theorem isEntryName_entryNameEnv (n : Nat) : isEntryName (entryNameEnv n) = true := by
  have hname : (entryNameEnv n).toList =
      "CONTAINER_".toList ++ ((toString n).toList ++ "_NAME".toList) := by
    simp [entryNameEnv]
  rw [isEntryName, hname, stripFront_append]
  dsimp only
  rw [stripBack_append]
  exact digits_toString n

@[simp] theorem isEntryName_entryImageEnv (n : Nat) : isEntryName (entryImageEnv n) = true := by
  have hname : (entryImageEnv n).toList =
      "CONTAINER_".toList ++ ((toString n).toList ++ "_IMAGE".toList) := by
    simp [entryImageEnv]
  rw [isEntryName, hname, stripFront_append]
  dsimp only
  rw [stripBack_name_image, stripBack_append]
  exact digits_toString n

theorem isEntryName_countEnv : isEntryName countEnv = false := by decide

theorem stripFront_eq_some_iff {xs cs ys : List Char} :
    isEntryName.stripFront xs cs = some ys ↔ cs = xs ++ ys := by
  induction xs generalizing cs with
  | nil => simp [isEntryName.stripFront]
  | cons x xs ih =>
    cases cs with
    | nil => simp [isEntryName.stripFront]
    | cons c cs =>
      by_cases h : x = c
      · simp [isEntryName.stripFront, h, ih]
      · simp [isEntryName.stripFront, h, Ne.symm h]

theorem stripBack_eq_some_iff {ending cs ys : List Char} :
    isEntryName.stripBack ending cs = some ys ↔ cs = ys ++ ending := by
  rw [isEntryName.stripBack, Option.map_eq_some_iff]
  constructor
  · rintro ⟨rest, hrest, rfl⟩
    have hcs := congrArg List.reverse (stripFront_eq_some_iff.mp hrest)
    simpa using hcs
  · rintro rfl
    exact ⟨ys.reverse, stripFront_eq_some_iff.mpr (by simp), List.reverse_reverse ys⟩

theorem isDigits_iff {cs : List Char} :
    (!cs.isEmpty && cs.all Char.isDigit) = true ↔ cs ≠ [] ∧ ∀ d ∈ cs, d.isDigit = true := by
  simp

/-- The name of an entry: digits between `CONTAINER_` and `_NAME` or `_IMAGE`. -/
def NamesEntry (name : String) : Prop :=
  ∃ digits ending, digits ≠ [] ∧ (∀ d ∈ digits, d.isDigit = true) ∧
    (ending = "_NAME" ∨ ending = "_IMAGE") ∧
    name.toList = "CONTAINER_".toList ++ (digits ++ ending.toList)

/-- **The test for entry names accepts these names and no others.** -/
theorem isEntryName_iff (name : String) : isEntryName name = true ↔ NamesEntry name := by
  constructor
  · intro h
    rw [isEntryName] at h
    cases hrest : isEntryName.stripFront "CONTAINER_".toList name.toList with
    | none =>
      rw [hrest] at h
      exact absurd h Bool.false_ne_true
    | some rest =>
      have hname := stripFront_eq_some_iff.mp hrest
      rw [hrest] at h
      dsimp only at h
      cases hback : isEntryName.stripBack "_NAME".toList rest with
      | some digits =>
        rw [hback] at h
        rw [stripBack_eq_some_iff.mp hback] at hname
        obtain ⟨hne, hall⟩ := isDigits_iff.mp h
        exact ⟨digits, "_NAME", hne, hall, .inl rfl, hname⟩
      | none =>
        rw [hback] at h
        cases hback' : isEntryName.stripBack "_IMAGE".toList rest with
        | none =>
          rw [hback'] at h
          exact absurd h Bool.false_ne_true
        | some digits =>
          rw [hback'] at h
          rw [stripBack_eq_some_iff.mp hback'] at hname
          obtain ⟨hne, hall⟩ := isDigits_iff.mp h
          exact ⟨digits, "_IMAGE", hne, hall, .inr rfl, hname⟩
  · rintro ⟨digits, ending, hne, hall, hending, hname⟩
    have htest := isDigits_iff.mpr ⟨hne, hall⟩
    rw [isEntryName, hname, stripFront_append]
    dsimp only
    rcases hending with rfl | rfl
    · rw [stripBack_append]
      exact htest
    · rw [stripBack_name_image, stripBack_append]
      exact htest

instance : DecidablePred NamesEntry := fun name => decidable_of_iff _ (isEntryName_iff name)

theorem decide_namesEntry (name : String) : decide (NamesEntry name) = isEntryName name := by
  rw [Bool.eq_iff_iff, decide_eq_true_iff, isEntryName_iff]

/-! ## 2. Entries of containers -/

/-- An entry holds variables with entry names only. -/
theorem isEntryName_of_mem_entry {n : Nat} {c : Container} {e : EnvVar} (h : e ∈ entry n c) :
    isEntryName e.name = true := by
  simp only [entry, List.mem_cons, List.not_mem_nil, or_false] at h
  rcases h with rfl | rfl
  · exact isEntryName_entryNameEnv n
  · exact isEntryName_entryImageEnv n

theorem isEntryName_of_mem_entriesFrom : ∀ {cs : List Container} {n : Nat} {e : EnvVar},
    e ∈ entriesFrom n cs → isEntryName e.name = true
  | [], _, _, h => absurd h List.not_mem_nil
  | c :: cs, n, e, h => by
    rcases List.mem_append.mp h with h | h
    · split at h
      · exact isEntryName_of_mem_entry h
      · exact absurd h List.not_mem_nil
    · exact isEntryName_of_mem_entriesFrom h

/-- **Where every container carries the agent, every container has its entry**, under the name and
the image it had before it was given anything. -/
theorem entriesFrom_map_attach {a : Attachment} (ha : a.agent.isSome = true) :
    ∀ (cs : List Container) (n : Nat),
      entriesFrom n (cs.map a.attach) = Injection.allEntriesFrom n cs
  | [], _ => rfl
  | c :: cs, n => by
    simp only [List.map_cons, entriesFrom, Injection.allEntriesFrom, Attachment.hasAgent_attach, ha,
      Bool.or_true, if_true, entry, Attachment.name_attach, Attachment.image_attach,
      entriesFrom_map_attach ha cs (n + 1)]

/-- The entries of all containers go by their positions. -/
theorem allEntriesFrom_eq_flatMap : ∀ (cs : List Container) (position : Nat),
    Injection.allEntriesFrom position cs = (cs.zipIdx position).flatMap fun (c, n) =>
      [ .plain ("CONTAINER_" ++ toString n ++ "_NAME") c.name,
        .plain ("CONTAINER_" ++ toString n ++ "_IMAGE") (c.image.getD "") ]
  | [], _ => rfl
  | c :: cs, position => by
    rw [Injection.allEntriesFrom, List.zipIdx_cons, List.flatMap_cons,
      allEntriesFrom_eq_flatMap cs (position + 1)]
    rfl

/-- The entries of all containers are taken out by the test for entry names. -/
theorem filter_allEntriesFrom : ∀ (cs : List Container) (n : Nat),
    (Injection.allEntriesFrom n cs).filter (fun e => !isEntryName e.name) = []
  | [], _ => rfl
  | c :: cs, n => by
    simp [Injection.allEntriesFrom, entry, EnvVar.plain, filter_allEntriesFrom cs (n + 1)]

/-! ## 3. Writing entries anew -/

theorem envVars_sync (install : Container) (cs : List Container) :
    (sync install cs).envVars = setVar countEnv (toString cs.length)
      (install.envVars.filter (fun e => !isEntryName e.name) ++ entriesFrom 1 cs) := rfl

theorem sync_eq (install : Container) (cs : List Container) :
    sync install cs = { install with env := some (sync install cs).envVars } := rfl

/-- **The layout survives.**  Count first, then variables that are no entries, then the entries:
that is what a fresh injection writes and what writing anew leaves. -/
theorem envVars_sync_of_layout {install : Container} {count : String} {fixed entries : List EnvVar}
    (h : install.envVars = .plain countEnv count :: fixed ++ entries)
    (hfixed : ∀ e ∈ fixed, isEntryName e.name = false)
    (hentries : entries.filter (fun e => !isEntryName e.name) = []) (cs : List Container) :
    (sync install cs).envVars =
      .plain countEnv (toString cs.length) :: fixed ++ entriesFrom 1 cs := by
  have hkept : fixed.filter (fun e => !isEntryName e.name) = fixed :=
    List.filter_eq_self.mpr fun e he => by rw [hfixed e he]; rfl
  have hothers : install.envVars.filter (fun e => !isEntryName e.name) =
      .plain countEnv count :: fixed := by
    have hcount : (!isEntryName (EnvVar.plain countEnv count).name) = true := by
      rw [EnvVar.plain, isEntryName_countEnv]; rfl
    rw [h, List.filter_append, hentries, List.append_nil, List.filter_cons, if_pos hcount, hkept]
  rw [envVars_sync, hothers]
  simp [setVar, EnvVar.plain]

/-- Setting a variable leaves those with other names alone. -/
theorem find?_setVar {name other value : String} (h : name ≠ other) : ∀ vars : List EnvVar,
    (setVar other value vars).find? (fun e => decide (e.name = name)) =
      vars.find? (fun e => decide (e.name = name))
  | [] => by simp [setVar, EnvVar.plain, Ne.symm h]
  | e :: vars => by
    unfold setVar
    split
    · rename_i he
      simp [he, Ne.symm h]
    · simp only [List.find?_cons, find?_setVar h vars]

/-- **Writing entries anew hides nothing.**  A variable that is neither an entry nor the count is
found as before. -/
theorem findEnv?_sync {name : String} (hentry : isEntryName name = false) (hcount : name ≠ countEnv)
    (install : Container) (cs : List Container) :
    (sync install cs).findEnv? name = install.findEnv? name := by
  have hnone : (entriesFrom 1 cs).find? (fun e => decide (e.name = name)) = none := by
    refine List.find?_eq_none.mpr fun e he hname => ?_
    rw [← of_decide_eq_true hname, isEntryName_of_mem_entriesFrom he] at hentry
    exact Bool.noConfusion hentry
  have hsame : (fun e : EnvVar => decide (!isEntryName e.name ∧ decide (e.name = name))) =
      fun e => decide (e.name = name) := by
    funext e
    by_cases he : e.name = name <;> simp [he, hentry]
  rw [Container.findEnv?, envVars_sync, find?_setVar hcount, List.find?_append, List.find?_filter,
    hsame, hnone, Option.or_none, Container.findEnv?]

/-! ## 4. Variables that are left alone -/

/-- Setting a variable goes past what a test by name takes out. -/
theorem filter_setVar (keep : String → Bool) {name : String} (hname : keep name = true)
    (value : String) : ∀ vars : List EnvVar,
    (setVar name value vars).filter (fun e => keep e.name) =
      setVar name value (vars.filter fun e => keep e.name)
  | [] => by simp [setVar, EnvVar.plain, hname]
  | e :: vars => by
    by_cases he : e.name = name
    · simp [setVar, he, hname]
    · rw [setVar, if_neg he]
      cases hkeep : keep e.name with
      | false => simp [hkeep, filter_setVar keep hname value vars]
      | true => simp [hkeep, filter_setVar keep hname value vars, setVar, he]

/-- Setting a variable changes the first one with the name, or adds one. -/
theorem eraseP_setVar (name value : String) : ∀ vars : List EnvVar,
    (setVar name value vars).eraseP (fun e => decide (e.name = name)) =
      vars.eraseP fun e => decide (e.name = name)
  | [] => by simp [setVar, EnvVar.plain]
  | e :: vars => by
    unfold setVar
    by_cases he : e.name = name
    · simp [he]
    · simp [he, eraseP_setVar name value vars]

/-- The test for entry names takes out the entries that are written. -/
theorem filter_entriesFrom (n : Nat) (cs : List Container) :
    (entriesFrom n cs).filter (fun e => !isEntryName e.name) = [] := by
  refine List.filter_eq_nil_iff.mpr fun e he => ?_
  rw [isEntryName_of_mem_entriesFrom he]
  exact Bool.false_ne_true

/-- After writing anew, the count is set among the variables that are no entries. -/
theorem filter_envVars_sync (install : Container) (cs : List Container) :
    (sync install cs).envVars.filter (fun e => !isEntryName e.name) =
      setVar countEnv (toString cs.length)
        (install.envVars.filter fun e => !isEntryName e.name) := by
  have hcount : (!isEntryName countEnv) = true := by rw [isEntryName_countEnv]; rfl
  rw [envVars_sync, filter_setVar (fun name => !isEntryName name) hcount,
    List.filter_append, filter_entriesFrom, List.append_nil, List.filter_filter]
  simp only [Bool.and_self]

/-- The variables besides the entries and the first count. -/
def others (vars : List EnvVar) : List EnvVar :=
  (vars.filter fun e => ¬ NamesEntry e.name).eraseP fun e => e.name = countEnv

theorem others_eq (vars : List EnvVar) :
    others vars =
      (vars.filter fun e => !isEntryName e.name).eraseP fun e => decide (e.name = countEnv) := by
  simp only [others, decide_not, decide_namesEntry]

/-- **Writing entries anew leaves all other variables alone**, and their order. -/
theorem others_sync (install : Container) (cs : List Container) :
    others (sync install cs).envVars = others install.envVars := by
  rw [others_eq, others_eq, filter_envVars_sync, eraseP_setVar]

end InstallContainer
end InjectionWebhook
