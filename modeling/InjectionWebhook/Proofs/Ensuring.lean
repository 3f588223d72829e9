/-
# Making sure of a secret

A call that makes sure of a secret reads what it needs, looks whether the secret is there, and
creates it if it is not.  Between the look and the creation others may have created it; a name that
is taken is no failure then.  `Ensuring` says of a dialogue that it is what such a call has still to
do, with one case for each thing it can do next.

* `ensuring_ensureInitSecret`, `ensuring_ensureEndpointSecret`: the two calls of the webhook are such
  dialogues;
* `Ensuring.endsWell_mono`: a server that has grown by secrets leaves such a call no worse off;
* `Ensuring.exchange`: after a request it is such a dialogue again, or it succeeded and the secret is
  there (`Tied`), and nothing but the secret has changed.
-/
import InjectionWebhook.Proofs.Provision

namespace InjectionWebhook

open Dialogue

/-! ## 1. A server that grows -/

namespace ApiServer

/-- All objects are still there, and whatever is new is a secret. -/
structure Grows (s s' : ApiServer) : Prop where
  keeps : Keeps s s'
  secrets : ∀ path o, s'.objects.get? path = some o →
    s.objects.get? path = some o ∨ ∃ secret, o = .secret secret

/-- **A request makes the server grow by a secret at most.** -/
theorem grows_answer (r : Request) (s : ApiServer) : Grows s (answer r s).2 := by
  refine ⟨keeps_answer r s, fun path o ho => ?_⟩
  cases r with
  | get path' =>
    rw [objects_get] at ho
    exact .inl ho
  | announce event => exact .inl ho
  | create collection secret =>
    rcases objects_create s collection secret with h | ⟨-, h⟩
    · rw [h] at ho
      exact .inl ho
    · rw [h, Dict.get?_insert] at ho
      split at ho
      · exact .inr ⟨secret, (Option.some.inj ho).symm⟩
      · exact .inl ho

/-- Reading leaves the growth as it is. -/
theorem Grows.get {s s' : ApiServer} (h : Grows s s') (path : String) :
    Grows (answer (.get path) s).2 (answer (.get path) s').2 := by
  refine ⟨⟨fun path' o ho => ?_, h.keeps.faults⟩, fun path' o ho => ?_⟩
  · rw [objects_get] at ho ⊢
    exact h.keeps.objects path' o ho
  · rw [objects_get] at ho ⊢
    exact h.secrets path' o ho

theorem Grows.fault? {s s' : ApiServer} (h : Grows s s') (r : Request) :
    s'.fault? r = s.fault? r := by
  rw [ApiServer.fault?, ApiServer.fault?, h.keeps.faults]

/-- **A reading of a grown server** is answered as before, or finds a secret where nothing was. -/
theorem Grows.answer_get {s s' : ApiServer} (h : Grows s s') (path : String) :
    (answer (.get path) s').1 = (answer (.get path) s).1 ∨
      (∃ status, (answer (.get path) s).1 = .error status) ∧
        ∃ secret, (answer (.get path) s').1 = .ok (.secret secret) := by
  rw [ApiServer.answer_get, ApiServer.answer_get, h.fault?]
  cases s.fault? (.get path) with
  | some status => exact .inl rfl
  | none =>
    cases hget : s.objects.get? path with
    | some o =>
      rw [h.keeps.objects path o hget]
      exact .inl rfl
    | none =>
      cases hget' : s'.objects.get? path with
      | none => exact .inl rfl
      | some o =>
        rcases h.secrets path o hget' with hthere | ⟨secret, rfl⟩
        · rw [hget] at hthere
          exact absurd hthere (by simp)
        · exact .inr ⟨⟨_, rfl⟩, secret, rfl⟩

/-- **A creation on a grown server** is refused as before, or it succeeds or finds the name taken. -/
theorem Grows.answer_create {s s' : ApiServer} (h : Grows s s') (hs : s.Honest)
    (collection : String) (secret : Secret) :
    (∃ status, status.code ≠ 409 ∧ (answer (.create collection secret) s).1 = .error status) ∨
      (answer (.create collection secret) s').1 = .ok () ∨
      ∃ status, status.code = 409 ∧
        (answer (.create collection secret) s').1 = .error status := by
  rw [ApiServer.answer_create, ApiServer.answer_create, h.fault?]
  cases hfault : s.fault? (.create collection secret) with
  | some status => exact .inl ⟨status, hs.code_of_fault hfault, rfl⟩
  | none =>
    dsimp only
    cases s'.objects.contains (pathOf collection secret) with
    | true => exact .inr (.inr ⟨_, rfl, rfl⟩)
    | false => exact .inr (.inl rfl)

end ApiServer

/-! ## 2. Making sure of a secret -/

section Ensuring

variable {α β : Type}

/-- It is done and well. -/
def Succeeds (d : RequestDialogue (Except Failure α)) : Prop := ∃ a, d = .done (.ok a)

/-- It is done and failed, but not because a name is taken. -/
def Refuses (d : RequestDialogue (Except Failure α)) : Prop :=
  ∃ e, e.saysConflict = false ∧ d = .done (.error e)

/-- Alone with the server it would end well. -/
def EndsWell (d : RequestDialogue (Except Failure α)) (s : ApiServer) : Prop :=
  ∃ a, (d.runState ApiServer.answer s).1 = .ok a

/-- Alone with the server a call goes on with the answer to its request. -/
theorem endsWell_ask {request : Request}
    {next : request.Answer → RequestDialogue (Except Failure α)} {s : ApiServer} :
    EndsWell (.ask request next) s ↔
      EndsWell (next (ApiServer.answer request s).1) (ApiServer.answer request s).2 :=
  Iff.rfl

theorem Succeeds.endsWell {d : RequestDialogue (Except Failure α)} (h : Succeeds d)
    (s : ApiServer) : EndsWell d s := by
  obtain ⟨a, rfl⟩ := h
  exact ⟨a, rfl⟩

theorem Refuses.not_endsWell {d : RequestDialogue (Except Failure α)} (h : Refuses d)
    (s : ApiServer) : ¬ EndsWell d s := by
  obtain ⟨e, -, rfl⟩ := h
  rintro ⟨a, ha⟩
  have hfailed : (Except.error e : Except Failure α) = .ok a := ha
  exact absurd hfailed (by simp)

/-- What a call has still to do that makes sure of the secret at a path. -/
inductive Ensuring (path : String) : RequestDialogue (Except Failure α) → Prop
  /-- It failed, but not because a name is taken. -/
  | failed {d : RequestDialogue (Except Failure α)} (refuses : Refuses d) : Ensuring path d
  /-- It reads an object that it needs. -/
  | reading {source : String}
      {next : Except ApiStatus StoredObject → RequestDialogue (Except Failure α)}
      (refused : ∀ status : ApiStatus, status.code ≠ 409 → Refuses (next (.error status)))
      (rest : ∀ o, Ensuring path (next (.ok o))) : Ensuring path (.ask (.get source) next)
  /-- It looks whether the secret is there, and is content if it is. -/
  | looking {next : Except ApiStatus StoredObject → RequestDialogue (Except Failure α)}
      (found : ∀ secret, Succeeds (next (.ok (.secret secret))))
      (unread : ∀ value, Succeeds (next (.ok (.document value))) ∨
        Refuses (next (.ok (.document value))))
      (rest : ∀ status : ApiStatus, status.code ≠ 409 → Ensuring path (next (.error status))) :
      Ensuring path (.ask (.get path) next)
  /-- It creates the secret, and is content if the name is taken. -/
  | creating {collection : String} {secret : Secret}
      {next : Except ApiStatus Unit → RequestDialogue (Except Failure α)}
      (target : ApiServer.pathOf collection secret = path)
      (made : Succeeds (next (.ok ())))
      (taken : ∀ status : ApiStatus, status.code = 409 → Succeeds (next (.error status)))
      (refused : ∀ status : ApiStatus, status.code ≠ 409 → Refuses (next (.error status))) :
      Ensuring path (.ask (.create collection secret) next)

variable {path : String} {d : RequestDialogue (Except Failure α)} {s s' : ApiServer}

/-- **A call is no worse off on a server that has grown.** -/
theorem Ensuring.endsWell_mono (h : Ensuring path d) (hgrows : ApiServer.Grows s s')
    (hs : s.Honest) (hwell : EndsWell d s) : EndsWell d s' := by
  -- Both servers are asked the same; where they answer differently, the grown one is the better.
  induction h generalizing s s' with
  | failed refuses => exact absurd hwell (refuses.not_endsWell s)
  | @reading source next refused rest ih =>
    have hhonest := (ApiServer.keeps_answer (.get source) s).honest hs
    replace hwell := endsWell_ask.mp hwell
    refine endsWell_ask.mpr ?_
    rcases hgrows.answer_get source with hsame | ⟨⟨status, hstatus⟩, -⟩
    · rw [hsame]
      cases hreply : (ApiServer.answer (.get source) s).1 with
      | error status =>
        rw [hreply] at hwell
        exact absurd hwell ((refused status (hs.code_of_answer_get hreply)).not_endsWell _)
      | ok o =>
        rw [hreply] at hwell
        exact ih o (hgrows.get source) hhonest hwell
    · rw [hstatus] at hwell
      exact absurd hwell ((refused status (hs.code_of_answer_get hstatus)).not_endsWell _)
  | @looking next found unread rest ih =>
    have hhonest := (ApiServer.keeps_answer (.get path) s).honest hs
    replace hwell := endsWell_ask.mp hwell
    refine endsWell_ask.mpr ?_
    rcases hgrows.answer_get path with hsame | ⟨-, secret, hsecret⟩
    · rw [hsame]
      cases hreply : (ApiServer.answer (.get path) s).1 with
      | error status =>
        rw [hreply] at hwell
        exact ih status (hs.code_of_answer_get hreply) (hgrows.get path) hhonest hwell
      | ok o =>
        rw [hreply] at hwell
        cases o with
        | secret secret => exact (found secret).endsWell _
        | document value =>
          rcases unread value with hfound | hrefuses
          · exact hfound.endsWell _
          · exact absurd hwell (hrefuses.not_endsWell _)
    · -- Somebody else has created the secret by now, and the look finds it.
      rw [hsecret]
      exact (found secret).endsWell _
  | @creating collection secret next target made taken refused =>
    replace hwell := endsWell_ask.mp hwell
    refine endsWell_ask.mpr ?_
    rcases hgrows.answer_create hs collection secret with
      ⟨status, hother, hstatus⟩ | hmade | ⟨status, htaken, hstatus⟩
    · rw [hstatus] at hwell
      exact absurd hwell ((refused status hother).not_endsWell _)
    · rw [hmade]
      exact made.endsWell _
    · rw [hstatus]
      exact (taken status htaken).endsWell _

/-- A call and the server: the call is still ensuring its secret, or it succeeded and the secret is
there. -/
def Tied (path : String) (d : RequestDialogue (Except Failure α)) (s : ApiServer) : Prop :=
  Ensuring path d ∨ Succeeds d ∧ s.objects.contains path = true

theorem Tied.keeps (h : Tied path d s) (hkeeps : ApiServer.Keeps s s') : Tied path d s' :=
  h.imp id fun ⟨hdone, hthere⟩ => ⟨hdone, hkeeps.contains hthere⟩

/-- **One exchange keeps the tie**, and changes nothing but the secret. -/
theorem Ensuring.exchange {request : Request}
    {next : request.Answer → RequestDialogue (Except Failure α)}
    (h : Ensuring path (.ask request next)) (hs : s.Honest) :
    Tied path (next (ApiServer.answer request s).1) (ApiServer.answer request s).2 ∧
      ∀ other, other ≠ path →
        (ApiServer.answer request s).2.objects.get? other = s.objects.get? other := by
  cases h with
  | failed refuses =>
    obtain ⟨e, -, hdone⟩ := refuses
    exact absurd hdone (by simp)
  | @reading source next refused rest =>
    refine ⟨.inl ?_, fun other _ => by rw [ApiServer.objects_get]⟩
    cases hreply : (ApiServer.answer (.get source) s).1 with
    | error status => exact .failed (refused status (hs.code_of_answer_get hreply))
    | ok o => exact rest o
  | @looking next found unread rest =>
    refine ⟨?_, fun other _ => by rw [ApiServer.objects_get]⟩
    cases hreply : (ApiServer.answer (.get path) s).1 with
    | error status => exact .inl (rest status (hs.code_of_answer_get hreply))
    | ok o =>
      have hthere := ApiServer.contains_of_answer_get hreply
      cases o with
      | secret secret => exact .inr ⟨found secret, hthere⟩
      | document value =>
        rcases unread value with hfound | hrefuses
        · exact .inr ⟨hfound, hthere⟩
        · exact .inl (.failed hrefuses)
  | @creating collection secret next target made taken refused =>
    constructor
    · cases hreply : (ApiServer.answer (.create collection secret) s).1 with
      | ok u =>
        have hthere := ApiServer.contains_of_answer_create hs fun status hstatus => by
          rw [hreply] at hstatus
          exact absurd hstatus (by simp)
        exact .inr ⟨made, target ▸ hthere⟩
      | error status =>
        by_cases htaken : status.code = 409
        · have hthere := ApiServer.contains_of_answer_create hs fun status' hstatus => by
            rw [hreply] at hstatus
            rw [← Except.error.inj hstatus]
            exact htaken
          exact .inr ⟨taken status htaken, target ▸ hthere⟩
        · exact .inl (.failed (refused status htaken))
    · intro other hother
      rcases ApiServer.objects_create s collection secret with h | ⟨-, h⟩
      · rw [h]
      · rw [h, Dict.get?_insert, if_neg (target ▸ hother)]

/-! ## 3. The calls make sure of their secrets -/

/-- What is still to be read, none of it refused because a name is taken. -/
inductive Reading : RequestDialogue (Except Failure β) → Prop
  | done {r : Except Failure β} (unconflicted : ∀ e, r = .error e → e.saysConflict = false) :
      Reading (.done r)
  | ask {source : String} {next : Except ApiStatus StoredObject → RequestDialogue (Except Failure β)}
      (refused : ∀ status : ApiStatus, status.code ≠ 409 → Refuses (next (.error status)))
      (rest : ∀ o, Reading (next (.ok o))) : Reading (.ask (.get source) next)

end Ensuring

namespace Client

section Programs

variable {α β : Type} {path ns name : String} {x : Attempt β} {f : β → Attempt α}

/-- A failure of the first part that is no conflict is one of the whole. -/
theorem refuses_bind {d : RequestDialogue (Except Failure β)} (h : Refuses d)
    {g : Except Failure β → RequestDialogue (Except Failure α)}
    (hg : ∀ e, g (.error e) = .done (.error e)) : Refuses (d.bind g) := by
  obtain ⟨e, he, rfl⟩ := h
  exact ⟨e, he, hg e⟩

/-- **First it is read, then the secret is made sure of.** -/
theorem ensuring_bind (hx : Reading x.run) (hf : ∀ b, Ensuring path (f b).run) :
    Ensuring path (x >>= f).run := by
  rw [run_bind_except]
  generalize x.run = d at hx ⊢
  induction hx with
  | @done r unconflicted =>
    cases r with
    | ok b => exact hf b
    | error e => exact .failed ⟨e, unconflicted e rfl, rfl⟩
  | ask refused rest ih =>
    exact .reading (fun status hstatus => refuses_bind (refused status hstatus) fun _ => rfl) ih

/-- What is read in two parts. -/
theorem reading_bind (hx : Reading x.run) (hf : ∀ b, Reading (f b).run) :
    Reading (x >>= f).run := by
  rw [run_bind_except]
  generalize x.run = d at hx ⊢
  induction hx with
  | @done r unconflicted =>
    cases r with
    | ok b => exact hf b
    | error e =>
      exact .done fun e' he' => unconflicted e' (congrArg Except.error (Except.error.inj he'))
  | ask refused rest ih =>
    exact .ask (fun status hstatus => refuses_bind (refused status hstatus) fun _ => rfl) ih

theorem reading_pure (b : β) : Reading (pure b : Attempt β).run :=
  .done fun _ h => absurd h (by simp)

/-- A refusal that is no conflict stays one as a failure. -/
theorem refuses_of_status {status : ApiStatus} (h : status.code ≠ 409) :
    Refuses (.done (.error status.failure) : RequestDialogue (Except Failure β)) :=
  ⟨status.failure, decide_eq_false h, rfl⟩

/-- A path that cannot be sent is no conflict. -/
theorem unconflicted_of_itemPath {resource : ApiResource} {within : Option String}
    {e : RequestFailure} (h : itemPath resource within name = .error e) :
    (Failure.request e).saysConflict = false := by
  unfold itemPath at h
  split at h
  · rw [← Except.error.inj h]
    rfl
  · split at h
    · exact absurd h (by simp)
    · rw [← Except.error.inj h]
      rfl

/-- **A secret is read** without conflict, whatever its name. -/
theorem reading_secret (ns name : String) : Reading (ExceptT.mk (secret ns name)).run := by
  rw [ExceptT.run_mk, secret, getAs, getObject]
  split
  · rename_i e hpath
    exact .done fun e' he' => by
      rw [← Except.error.inj he']
      exact unconflicted_of_itemPath hpath
  · refine .ask (fun status hstatus => refuses_of_status hstatus) fun o => .done fun e he => ?_
    have hread : o.asSecret.mapError (fun flaw => Failure.request (.undecodable flaw)) =
        .error e := he
    cases hsecret : o.asSecret with
    | ok secret =>
      rw [hsecret] at hread
      have hok : (Except.ok secret : Except Failure Secret) = .error e := hread
      exact absurd hok (by simp)
    | error flaw =>
      rw [hsecret] at hread
      rw [← Except.error.inj hread]
      rfl

theorem reading_operatorSecret (operatorNs name : String) :
    Reading (operatorSecret operatorNs name).run := by
  rw [operatorSecret]
  exact reading_bind (reading_secret operatorNs name) fun _ => reading_pure _

theorem unconflicted_of_required {data : Dict String} {key : String} {e : Failure}
    (h : Provision.required data name key = .error e) : e.saysConflict = false := by
  unfold Provision.required at h
  split at h
  · exact absurd h (by simp)
  · rw [← Except.error.inj h]
    rfl

theorem reading_required (data : Dict String) (name key : String) :
    Reading (ExceptT.mk (pure (Provision.required data name key)) : Attempt String).run :=
  .done fun _ => unconflicted_of_required

theorem reading_proxy (operatorNs : String) (config : WorkloadConfig) :
    Reading (proxy operatorNs config).run := by
  rw [proxy]
  split
  · exact reading_pure _
  · refine reading_bind (reading_operatorSecret operatorNs _) fun data => ?_
    exact reading_bind (reading_required data _ proxyKey) fun _ => reading_pure _
  · exact reading_pure _

theorem reading_endpointFields (config : WorkloadConfig) (tokens : Dict String) :
    Reading (ExceptT.mk (pure (Provision.endpointFields config tokens)) :
      Attempt EndpointFields).run := by
  refine .done fun e he => ?_
  have hfields : Provision.endpointFields config tokens = .error e := he
  unfold Provision.endpointFields at hfields
  dsimp only at hfields
  split at hfields
  · rw [← Except.error.inj hfields]
    rfl
  · cases hrequired : Provision.required tokens config.tokensSecret
        Provision.ingestTokenSecretKey with
    | ok token =>
      rw [hrequired] at hfields
      have hok : (Except.ok _ : Except Failure EndpointFields) = .error e := hfields
      exact absurd hok (by simp)
    | error e' =>
      rw [hrequired] at hfields
      rw [← Except.error.inj hfields]
      exact unconflicted_of_required hrequired

/-- What a look at a secret says. -/
def seen : Except ApiStatus StoredObject → Except Failure (Option Secret)
  | .ok o => match o.asSecret with
    | .ok secret => .ok (some secret)
    | .error flaw => .error (.request (.undecodable flaw))
  | .error status => if status.failure.saysNotFound then .ok none else .error status.failure

theorem secretIfPresent_eq (hns : isPathText ns = true) (hname : isPathText name = true)
    (hne : name.isEmpty = false) :
    secretIfPresent ns name = .ask (.get (secretPath ns name)) fun r => .done (seen r) := by
  rw [secretIfPresent, getIfPresent, getAs, getObject, itemPath_secret hns hname hne]
  refine congrArg (Dialogue.ask _) (funext fun r => congrArg Dialogue.done ?_)
  rcases r with status | o
  · rfl
  · have hgot : Except.mapError ApiStatus.failure (.ok o) = .ok o := rfl
    rw [hgot, seen]
    dsimp only
    cases o.asSecret <;> rfl

/-- What the answer to a creation says. -/
def made : Except ApiStatus Unit → Except Failure Bool
  | .ok () => .ok true
  | .error status => if status.failure.saysConflict then .ok false else .error status.failure

theorem createIfAbsent_eq {secret : Secret} (hns : isPathText ns = true) :
    createIfAbsent ns secret =
      .ask (.create (ApiResource.secrets.collection (some ns)) secret) fun r => .done (made r) := by
  rw [createIfAbsent, collectionPath_secrets hns]
  refine congrArg (Dialogue.ask _) (funext fun r => ?_)
  rcases r with status | ⟨⟩ <;> rfl

/-- A dialogue that may fail goes on with the value of its first part. -/
def goOn (g : β → Attempt α) : Except Failure β → RequestDialogue (Except Failure α)
  | .ok b => (g b).run
  | .error e => .done (.error e)

theorem run_bind_ask {request : Request} {read : request.Answer → Except Failure β}
    {d : RequestDialogue (Except Failure β)} (h : d = .ask request fun r => .done (read r))
    (g : β → Attempt α) :
    (ExceptT.mk d >>= g).run = .ask request fun r => goOn g (read r) := by
  rw [run_bind_except, ExceptT.run_mk, h, ask_bind]
  refine congrArg (Dialogue.ask request) (funext fun r => ?_)
  rw [done_bind]
  cases read r <;> rfl

/-- **It is looked for, and made sure of if it is absent.** -/
theorem ensuring_secretIfPresent {g : Option Secret → Attempt α} (hns : isPathText ns = true)
    (hname : isPathText name = true) (hne : name.isEmpty = false)
    (found : ∀ secret, Succeeds (g (some secret)).run)
    (absent : Ensuring (secretPath ns name) (g none).run) :
    Ensuring (secretPath ns name) (ExceptT.mk (secretIfPresent ns name) >>= g).run := by
  rw [run_bind_ask (secretIfPresent_eq hns hname hne)]
  refine .looking found (fun value => ?_) fun status hstatus => ?_
  · cases hread : (StoredObject.document value).asSecret with
    | ok secret =>
      have hseen : seen (.ok (.document value)) = .ok (some secret) := by rw [seen, hread]
      rw [hseen]
      exact .inl (found secret)
    | error flaw =>
      have hseen : seen (.ok (.document value)) = .error (.request (.undecodable flaw)) := by
        rw [seen, hread]
      rw [hseen]
      exact .inr ⟨_, rfl, rfl⟩
  · cases hfound : status.failure.saysNotFound with
    | true =>
      have hseen : seen (.error status) = .ok none := if_pos hfound
      rw [hseen]
      exact absent
    | false =>
      have hseen : seen (.error status) = .error status.failure := if_neg (by simp [hfound])
      rw [hseen]
      exact .failed (refuses_of_status hstatus)

/-- **It is created**, unless somebody else was first. -/
theorem ensuring_createIfAbsent {g : Bool → Attempt α} {secret : Secret}
    (hns : isPathText ns = true) (hname : secret.metadata.nameOrEmpty = name)
    (hg : ∀ created, Succeeds (g created).run) :
    Ensuring (secretPath ns name) (ExceptT.mk (createIfAbsent ns secret) >>= g).run := by
  rw [run_bind_ask (createIfAbsent_eq hns)]
  refine .creating (congrArg (secretPath ns) hname) (hg true) (fun status hstatus => ?_)
    fun status hstatus => ?_
  · have hmade : made (.error status) = .ok false := if_pos (decide_eq_true hstatus)
    rw [hmade]
    exact hg false
  · have hmade : made (.error status) = .error status.failure :=
      if_neg (by simp [Failure.saysConflict, ApiStatus.failure, hstatus])
    rw [hmade]
    exact refuses_of_status hstatus

theorem succeeds_pure (a : α) : Succeeds (pure a : Attempt α).run := ⟨a, rfl⟩

end Programs

variable {operatorNs ns : String} {config : WorkloadConfig}

/-- **A call for the injection config secret makes sure of it.** -/
theorem ensuring_ensureInitSecret (hns : isPathText ns = true) :
    Ensuring (secretPath ns initSecretName) (ensureInitSecret operatorNs config ns).run := by
  rw [ensureInitSecret]
  refine ensuring_secretIfPresent hns (by decide +kernel) (by decide +kernel)
    (fun _ => succeeds_pure ()) ?_
  refine ensuring_bind (reading_operatorSecret operatorNs _) fun tokens => ?_
  refine ensuring_bind (reading_proxy operatorNs config) fun proxy => ?_
  exact ensuring_createIfAbsent hns rfl fun _ => succeeds_pure ()

/-- **A call for the endpoint secret makes sure of it.** -/
theorem ensuring_ensureEndpointSecret (hns : isPathText ns = true) :
    Ensuring (secretPath ns endpointSecretName)
      (ensureEndpointSecret operatorNs config ns).run := by
  rw [ensureEndpointSecret]
  refine ensuring_bind (reading_operatorSecret operatorNs _) fun tokens => ?_
  refine ensuring_bind (reading_endpointFields config tokens) fun fields => ?_
  refine ensuring_secretIfPresent hns (by decide +kernel) (by decide +kernel)
    (fun _ => succeeds_pure fields) ?_
  exact ensuring_createIfAbsent hns rfl fun _ => succeeds_pure fields

end Client

end InjectionWebhook
