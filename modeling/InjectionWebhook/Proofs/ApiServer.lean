/-
# What the API server keeps

Requests add objects and take none away: `ApiServer.Keeps` relates the server before and after, and
a run of requests keeps all there was (`keeps_runState`).  A secret in a namespace stands at its
`secretPath`; after it was found or created it is there (`contains_of_secretIfPresent`,
`contains_of_createIfAbsent`).

A server that says a name is taken is believed by the webhook.  `ApiServer.Honest` says that it lies
about that in none of its faults.
-/
import InjectionWebhook.Cluster.ApiServer
import InjectionWebhook.Cluster.Client
import InjectionWebhook.Proofs.Steps

namespace InjectionWebhook

open Dialogue

/-! ## 1. Paths -/

/-- Every character may stand in a path. -/
def isPathText (s : String) : Bool := s.toList.all isPathChar

theorem isPathText_append {s t : String} (hs : isPathText s = true) (ht : isPathText t = true) :
    isPathText (s ++ t) = true := by
  rw [isPathText, String.toList_append, List.all_append, Bool.and_eq_true]
  exact ⟨hs, ht⟩

/-- A target without query is its own path. -/
theorem pathOf?_of_isPathText {target : String} (h : isPathText target = true) :
    pathOf? (target ++ "?") = some target := by
  have hkept : ∀ c ∈ target.toList, (c ≠ '?' && c ≠ '#') = true := by
    intro c hc
    have hpath : isPathChar c = true := List.all_eq_true.mp h c hc
    have hmark : c ≠ '?' := by
      rintro rfl
      exact absurd hpath (by decide)
    have hsign : c ≠ '#' := by
      rintro rfl
      exact absurd hpath (by decide)
    simp [hmark, hsign]
  have hchars : (target ++ "?").toList = target.toList ++ ['?'] := String.toList_append
  have htake : (target.toList ++ ['?']).takeWhile (fun c => c ≠ '?' && c ≠ '#') =
      target.toList := by
    rw [List.takeWhile_append_of_pos hkept]
    simp
  have hdrop : (target.toList ++ ['?']).dropWhile (fun c => c ≠ '?' && c ≠ '#') = ['?'] := by
    rw [List.dropWhile_append_of_pos hkept]
    simp
  rw [pathOf?, hchars, htake, hdrop]
  have hall : target.toList.all isPathChar = true := h
  simp [hall]

/-- Where a secret of a namespace is kept. -/
def secretPath (ns name : String) : String :=
  ApiResource.secrets.collection (some ns) ++ "/" ++ name

/-- The path of the secrets of a namespace can be sent if the name of the namespace can. -/
theorem isPathText_collection {ns : String} (h : isPathText ns = true) :
    isPathText (ApiResource.secrets.collection (some ns)) = true := by
  have hcollection : ApiResource.secrets.collection (some ns) =
      "/api/v1/" ++ ("namespaces/" ++ ns ++ "/") ++ "secrets" := rfl
  rw [hcollection]
  refine isPathText_append (isPathText_append (by decide) ?_) (by decide)
  exact isPathText_append (isPathText_append (by decide) h) (by decide)

theorem itemPath_secret {ns name : String} (hns : isPathText ns = true)
    (hname : isPathText name = true) (hne : name.isEmpty = false) :
    itemPath .secrets (some ns) name = .ok (secretPath ns name) := by
  have hpath : isPathText (secretPath ns name) = true :=
    isPathText_append (isPathText_append (isPathText_collection hns) (by decide)) hname
  rw [itemPath, hne, if_neg Bool.false_ne_true, ← secretPath, pathOf?_of_isPathText hpath]

theorem collectionPath_secrets {ns : String} (h : isPathText ns = true) :
    collectionPath .secrets (some ns) = .ok (ApiResource.secrets.collection (some ns)) := by
  rw [collectionPath, pathOf?_of_isPathText (isPathText_collection h)]

/-! ## 2. Objects -/

namespace ApiServer

/-- All objects are still there, and the faults are the same. -/
structure Keeps (s s' : ApiServer) : Prop where
  objects : ∀ path o, s.objects.get? path = some o → s'.objects.get? path = some o
  faults : s'.faults = s.faults

theorem Keeps.refl (s : ApiServer) : Keeps s s := ⟨fun _ _ h => h, rfl⟩

theorem Keeps.trans {s s' s'' : ApiServer} (h : Keeps s s') (h' : Keeps s' s'') : Keeps s s'' :=
  ⟨fun path o ho => h'.objects path o (h.objects path o ho), h'.faults.trans h.faults⟩

/-- What is there is still there. -/
theorem Keeps.contains {s s' : ApiServer} (h : Keeps s s') {path : String}
    (hpath : s.objects.contains path = true) : s'.objects.contains path = true := by
  obtain ⟨o, ho⟩ := Option.isSome_iff_exists.mp hpath
  rw [Dict.contains, h.objects path o ho]
  rfl

/-- A creation is refused and nothing changes, or the secret is put where nothing was. -/
theorem create_cases (s : ApiServer) (collection : String) (secret : Secret) :
    (∃ status, (answer (.create collection secret) s).1 = .error status ∧
        (answer (.create collection secret) s).2.objects = s.objects) ∨
      (answer (.create collection secret) s).1 = .ok () ∧
        s.objects.contains (pathOf collection secret) = false ∧
        (answer (.create collection secret) s).2.objects =
          s.objects.insert (pathOf collection secret) (.secret secret) := by
  unfold answer respond
  dsimp only
  split
  · exact .inl ⟨_, rfl, rfl⟩
  · split
    · exact .inl ⟨_, rfl, rfl⟩
    · rename_i hfree
      exact .inr ⟨rfl, Bool.not_eq_true _ ▸ hfree, rfl⟩

/-- A creation adds the secret where nothing is, or nothing at all. -/
theorem objects_create (s : ApiServer) (collection : String) (secret : Secret) :
    (answer (.create collection secret) s).2.objects = s.objects ∨
      s.objects.contains (pathOf collection secret) = false ∧
        (answer (.create collection secret) s).2.objects =
          s.objects.insert (pathOf collection secret) (.secret secret) := by
  rcases s.create_cases collection secret with ⟨-, -, hsame⟩ | ⟨-, hnew⟩
  · exact .inl hsame
  · exact .inr hnew

/-- Other requests leave the objects alone. -/
theorem objects_get (s : ApiServer) (path : String) :
    (answer (.get path) s).2.objects = s.objects := by
  unfold answer respond
  dsimp only
  split <;> rfl

/-- **A request keeps all there is.** -/
theorem keeps_answer (r : Request) (s : ApiServer) : Keeps s (answer r s).2 := by
  refine ⟨fun path o ho => ?_, rfl⟩
  cases r with
  | get path' => rw [objects_get]; exact ho
  | announce event => exact ho
  | create collection secret =>
    rcases objects_create s collection secret with h | ⟨hfree, h⟩
    · rw [h]
      exact ho
    · have hne : path ≠ pathOf collection secret := by
        rintro rfl
        rw [Dict.contains, ho] at hfree
        exact absurd hfree (by simp)
      rw [h, Dict.get?_insert, if_neg hne]
      exact ho

/-- **A run keeps all there is.** -/
theorem keeps_runState {α : Type} (d : RequestDialogue α) (s : ApiServer) :
    Keeps s (d.runState answer s).2 := by
  induction d generalizing s with
  | done a => exact Keeps.refl s
  | ask r next ih => exact (keeps_answer r s).trans (ih _ _)

theorem keeps_of_steps {α : Type} {d : RequestDialogue α} {s s' : ApiServer} {a : α}
    (h : d.Steps (Stateful answer) s a s') : Keeps s s' := by
  rw [steps_runState_iff] at h
  rw [show s' = (d.runState answer s).2 from congrArg Prod.snd h]
  exact keeps_runState d s

/-! ## 3. Getting and creating -/

/-- No fault says that a name is taken. -/
def Honest (s : ApiServer) : Prop :=
  ∀ line status, s.faults.get? line = some status → status.code ≠ 409

/-- No fault says that a name is taken. -/
theorem Honest.code_of_fault {s : ApiServer} (hs : s.Honest) {r : Request} {status : ApiStatus}
    (h : s.fault? r = some status) : status.code ≠ 409 := by
  obtain ⟨line, -, hget⟩ := Option.bind_eq_some_iff.mp h
  exact hs line status hget

theorem Keeps.honest {s s' : ApiServer} (h : Keeps s s') (hs : s.Honest) : s'.Honest := by
  intro line status hfault
  rw [h.faults] at hfault
  exact hs line status hfault

/-- The answer to a reading: a fault, what is there, or that nothing is. -/
theorem answer_get (s : ApiServer) (path : String) :
    (answer (.get path) s).1 = match s.fault? (.get path), s.objects.get? path with
      | some status, _ => .error status
      | none, some o => .ok o
      | none, none => .error (absent path) := by
  unfold answer respond
  dsimp only
  cases s.fault? (.get path) <;> cases s.objects.get? path <;> rfl

/-- The answer to a creation: a fault, that the name is taken, or success. -/
theorem answer_create (s : ApiServer) (collection : String) (secret : Secret) :
    (answer (.create collection secret) s).1 = match s.fault? (.create collection secret) with
      | some status => .error status
      | none =>
        if s.objects.contains (pathOf collection secret) then
          .error (taken (pathOf collection secret))
        else .ok () := by
  unfold answer respond
  dsimp only
  cases s.fault? (.create collection secret) with
  | some status => rfl
  | none => cases s.objects.contains (pathOf collection secret) <;> rfl

/-- A reading is never refused because a name is taken. -/
theorem Honest.code_of_answer_get {s : ApiServer} (hs : s.Honest) {path : String}
    {status : ApiStatus} (h : (answer (.get path) s).1 = .error status) : status.code ≠ 409 := by
  rw [answer_get] at h
  split at h
  · rename_i hfault
    rw [← Except.error.inj h]
    exact hs.code_of_fault hfault
  · exact absurd h (by simp)
  · rw [← Except.error.inj h]
    exact Nat.ne_of_lt (by decide : (404 : Nat) < 409)

/-- What is answered is there. -/
theorem get?_of_answer_get {s : ApiServer} {path : String} {o : StoredObject}
    (h : (answer (.get path) s).1 = .ok o) : s.objects.get? path = some o := by
  rw [answer_get] at h
  split at h
  · exact absurd h (by simp)
  · rename_i hget
    rw [hget, Except.ok.inj h]
  · exact absurd h (by simp)

/-- What was answered to a reading is there afterwards. -/
theorem contains_of_answer_get {s : ApiServer} {path : String} {o : StoredObject}
    (h : (answer (.get path) s).1 = .ok o) :
    (answer (.get path) s).2.objects.contains path = true := by
  rw [objects_get, Dict.contains, get?_of_answer_get h]
  rfl

/-- After a creation the secret is there, unless it was refused for another reason than its name. -/
theorem contains_of_answer_create {s : ApiServer} {collection : String} {secret : Secret}
    (hs : s.Honest)
    (h : ∀ status, (answer (.create collection secret) s).1 = .error status → status.code = 409) :
    (answer (.create collection secret) s).2.objects.contains
      (pathOf collection secret) = true := by
  revert h
  unfold answer respond
  dsimp only
  split
  · rename_i status hfault
    intro h
    exact absurd (h status rfl) (hs.code_of_fault hfault)
  · split
    · rename_i htaken
      intro _
      exact htaken
    · intro _
      dsimp only
      rw [Dict.contains, Dict.get?_insert, if_pos rfl]
      rfl

/-- **A secret that was found is there.** -/
theorem contains_of_secretIfPresent {ns name : String} (hns : isPathText ns = true)
    (hname : isPathText name = true) (hne : name.isEmpty = false) {s s' : ApiServer}
    {secret : Secret}
    (h : (Client.secretIfPresent ns name).Steps (Stateful answer) s (.ok (some secret)) s') :
    s'.objects.contains (secretPath ns name) = true := by
  rw [Client.secretIfPresent, getIfPresent, steps_bind] at h
  obtain ⟨found, t, hget, hdone⟩ := h
  obtain ⟨hfound, rfl⟩ := steps_done.mp hdone
  rw [getAs, steps_bind] at hget
  obtain ⟨object, u, hobject, hdone⟩ := hget
  obtain ⟨hread, rfl⟩ := steps_done.mp hdone
  rw [getObject, itemPath_secret hns hname hne, steps_ask] at hobject
  obtain ⟨r, v, hr, hdone⟩ := hobject
  obtain ⟨rfl, rfl⟩ := steps_done.mp hdone
  cases r with
  | error status =>
    have hfailed : found = .error status.failure := hread
    rw [hfailed] at hfound
    dsimp only at hfound
    split at hfound <;> exact absurd hfound (by simp)
  | ok o =>
    have hthere : s.objects.get? (secretPath ns name) = some o :=
      get?_of_answer_get (congrArg Prod.fst hr).symm
    have hkeeps : Keeps s s' := by
      rw [show s' = (answer (.get (secretPath ns name)) s).2 from congrArg Prod.snd hr]
      exact keeps_answer _ s
    refine hkeeps.contains ?_
    rw [Dict.contains, hthere]
    rfl

/-- **A secret that was created is there**, also if somebody else created it. -/
theorem contains_of_createIfAbsent {ns : String} (hns : isPathText ns = true) {s s' : ApiServer}
    (hs : s.Honest) {secret : Secret} {created : Bool}
    (h : (createIfAbsent ns secret).Steps (Stateful answer) s (.ok created) s') :
    s'.objects.contains (secretPath ns secret.metadata.nameOrEmpty) = true := by
  unfold createIfAbsent at h
  rw [collectionPath_secrets hns, steps_ask] at h
  obtain ⟨r, t, hr, h⟩ := h
  have hreply : (answer (.create (ApiResource.secrets.collection (some ns)) secret) s).1 = r :=
    (congrArg Prod.fst hr).symm
  have hafter : (answer (.create (ApiResource.secrets.collection (some ns)) secret) s).2 = t :=
    (congrArg Prod.snd hr).symm
  have hsame : s' = t := by
    cases r <;> exact (steps_done.mp h).2
  rw [hsame, ← hafter]
  refine contains_of_answer_create hs fun status hstatus => ?_
  rw [hreply] at hstatus
  rw [hstatus] at h
  have hconflict : status.failure.saysConflict = true := by
    cases hcase : status.failure.saysConflict with
    | true => rfl
    | false =>
      have hfailed := (steps_done.mp h).1
      rw [hcase, if_neg Bool.false_ne_true] at hfailed
      exact absurd hfailed (by simp)
  exact of_decide_eq_true hconflict

end ApiServer
end InjectionWebhook
