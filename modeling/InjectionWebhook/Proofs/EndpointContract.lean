/-
# The endpoint of an enriched container is always complete

An enriched container cannot do without the address and the token of the metrics endpoint.  They come
from the config and the operator's token secret, and two parts of the webhook look at them: what is
made from a config and a secret is checked there, and an admission checks what it is given once more,
key by key (`Admission.missingField?`).

`exists_endpointFields_iff` says when there are fields, and `serves_of_endpointFields` which: the
address without its slashes at the end and the token, neither of them empty.  So where the secrets are
made sure of through requests (`Admission.EnsuredBy`), the second check finds nothing, whatever the
requests are answered and whoever else looks things up: every failure of the first part is another one
(`Provision.Unusable`), and the failure of the second check cannot be reached (`failsWith_decide`).
`endpoint_complete` puts both together.
-/
import InjectionWebhook.Proofs.Credentials
import InjectionWebhook.Proofs.InitSecret
import Mathlib.Data.List.DropRight

namespace InjectionWebhook

open Dialogue

/-! ## 1. Addresses -/

namespace Provision

/-- So many slashes. -/
def slashes (n : Nat) : String := String.ofList (List.replicate n '/')

theorem toList_trimSlashes (s : String) :
    (trimSlashes s).toList = s.toList.rdropWhile (fun c => decide (c = '/')) := by
  rw [trimSlashes, String.toList_ofList]
  rfl

/-- **Slashes at the end make no difference.** -/
theorem trimSlashes_append_slashes (s : String) (n : Nat) :
    trimSlashes (s ++ slashes n) = trimSlashes s := by
  refine String.ext ?_
  rw [toList_trimSlashes, toList_trimSlashes, String.toList_append, slashes, String.toList_ofList]
  induction n with
  | zero => rw [List.replicate_zero, List.append_nil]
  | succ n ih =>
    rw [List.replicate_succ', ← List.append_assoc, List.rdropWhile_concat_pos _ _ _ (by simp), ih]

theorem exists_slashes (s : String) : ∃ n, s = trimSlashes s ++ slashes n := by
  refine ⟨(s.toList.rtakeWhile fun c => decide (c = '/')).length, String.ext ?_⟩
  have hslashes : s.toList.rtakeWhile (fun c => decide (c = '/')) =
      List.replicate (s.toList.rtakeWhile fun c => decide (c = '/')).length '/' := by
    refine List.eq_replicate_iff.mpr ⟨rfl, fun c hc => ?_⟩
    have htaken := List.mem_rtakeWhile_imp (p := fun c : Char => decide (c = '/')) hc
    exact of_decide_eq_true htaken
  rw [String.toList_append, toList_trimSlashes, slashes, String.toList_ofList, ← hslashes,
    List.rdropWhile_append_rtakeWhile]

/-- The text does not end with a slash. -/
def EndsBare (s : String) : Prop := s.toList.getLast? ≠ some '/'

instance (s : String) : Decidable (EndsBare s) :=
  inferInstanceAs (Decidable (s.toList.getLast? ≠ some '/'))

theorem endsBare_trimSlashes (s : String) : EndsBare (trimSlashes s) := by
  intro hlast
  rw [toList_trimSlashes] at hlast
  have hne : s.toList.rdropWhile (fun c => decide (c = '/')) ≠ [] := by
    intro hnil
    rw [hnil] at hlast
    exact absurd hlast (by simp)
  rw [List.getLast?_eq_getLast_of_ne_nil hne] at hlast
  exact List.rdropWhile_last_not _ _ hne (decide_eq_true (Option.some.inj hlast))

/-- Nothing is left exactly if there are slashes only. -/
theorem isEmpty_trimSlashes_iff (s : String) :
    (trimSlashes s).isEmpty = false ↔ ∃ c ∈ s.toList, c ≠ '/' := by
  have hempty : (trimSlashes s).isEmpty = true ↔ ∀ c ∈ s.toList, c = '/' := by
    rw [String.isEmpty_iff, ← String.toList_eq_nil_iff, toList_trimSlashes,
      List.rdropWhile_eq_nil_iff]
    simp only [decide_eq_true_eq]
  rw [← Bool.not_eq_true, hempty]
  simp only [not_forall, exists_prop]

/-! ## 2. Fields -/

/-- The fields of an endpoint: an address, which is the given one without slashes at its end and with
the path of the metrics behind it, and a token; neither is empty, and there is nothing else. -/
structure Serves (fields : EndpointFields) (apiUrl token : String) : Prop where
  url : ∃ base n, apiUrl = base ++ slashes n ∧ EndsBare base ∧
    fields.get? "BEACON_METRICS_INGEST_URL" = some (base ++ "/v2/metrics/ingest")
  token : fields.get? "BEACON_METRICS_INGEST_API_TOKEN" = some token
  others : ∀ key, key ≠ "BEACON_METRICS_INGEST_URL" → key ≠ "BEACON_METRICS_INGEST_API_TOKEN" →
    fields.get? key = none
  nonEmpty : ∀ key text, fields.get? key = some text → text ≠ ""

theorem serves_ofList {apiUrl token : String} (htoken : token ≠ "") :
    Serves (.ofList [(ingestUrlKey, trimSlashes apiUrl ++ "/v2/metrics/ingest"),
      (ingestTokenKey, token)]) apiUrl token := by
  have hget : ∀ key, (Dict.ofList [(ingestUrlKey, trimSlashes apiUrl ++ "/v2/metrics/ingest"),
      (ingestTokenKey, token)]).get? key =
        if key = "BEACON_METRICS_INGEST_API_TOKEN" then some token
        else if key = "BEACON_METRICS_INGEST_URL" then
          some (trimSlashes apiUrl ++ "/v2/metrics/ingest")
        else none := by
    intro key
    simp only [Dict.ofList, Dict.extend_cons, Dict.extend_nil, Dict.get?_insert, Dict.get?_empty,
      ingestTokenKey, ingestUrlKey]
  refine ⟨?_, ?_, fun key hurl htoken => ?_, fun key text htext => ?_⟩
  · obtain ⟨n, hn⟩ := exists_slashes apiUrl
    refine ⟨trimSlashes apiUrl, n, hn, endsBare_trimSlashes apiUrl, ?_⟩
    rw [hget, if_neg (by decide), if_pos rfl]
  · rw [hget, if_pos rfl]
  · rw [hget, if_neg htoken, if_neg hurl]
  · rw [hget] at htext
    split at htext
    · exact Option.some.inj htext ▸ htoken
    · split at htext
      · rw [← Option.some.inj htext]
        intro hnil
        have hchars := congrArg String.toList hnil
        rw [String.toList_append] at hchars
        exact absurd (List.append_eq_nil_iff.mp hchars).2 (by decide)
      · exact absurd htext (by simp)

/-- **When there are fields**: the address has something other than slashes, and there is a token. -/
theorem exists_endpointFields_iff (config : WorkloadConfig) (tokens : Dict String) :
    (∃ fields, endpointFields config tokens = .ok fields) ↔
      (∃ c ∈ config.spec.apiUrl.toList, c ≠ '/') ∧
        ∃ token, tokens.get? "dataIngestToken" = some token ∧ token ≠ "" := by
  simp only [endpointFields_eq_ok_iff, isEmpty_trimSlashes_iff, nonEmpty?_eq_some_iff,
    ingestTokenSecretKey]
  constructor
  · rintro ⟨_, hurl, token, htoken, -⟩
    exact ⟨hurl, token, htoken⟩
  · rintro ⟨hurl, token, htoken⟩
    exact ⟨_, hurl, token, htoken, rfl⟩

/-- **Which fields there are.** -/
theorem serves_of_endpointFields {config : WorkloadConfig} {tokens : Dict String}
    {fields : EndpointFields} (h : endpointFields config tokens = .ok fields) :
    ∃ token, tokens.get? "dataIngestToken" = some token ∧
      Serves fields config.spec.apiUrl token := by
  obtain ⟨-, token, htoken, rfl⟩ := endpointFields_eq_ok_iff.mp h
  obtain ⟨hget, hne⟩ := nonEmpty?_eq_some_iff.mp htoken
  exact ⟨token, hget, serves_ofList hne⟩

/-- The config with so many slashes behind its address. -/
def withSlashes (config : WorkloadConfig) (n : Nat) : WorkloadConfig :=
  { config with spec := { config.spec with apiUrl := config.spec.apiUrl ++ slashes n } }

theorem endpointFields_withSlashes (config : WorkloadConfig) (n : Nat) (tokens : Dict String) :
    endpointFields (withSlashes config n) tokens = endpointFields config tokens := by
  have htrim : trimSlashes (withSlashes config n).spec.apiUrl = trimSlashes config.spec.apiUrl :=
    trimSlashes_append_slashes config.spec.apiUrl n
  unfold endpointFields
  rw [htrim]
  rfl

/-- Complete fields lack nothing that an enriched container needs. -/
theorem Serves.missingField? {fields : EndpointFields} {apiUrl token : String}
    (h : Serves fields apiUrl token) : Admission.missingField? fields = none := by
  obtain ⟨base, n, -, -, hurl⟩ := h.url
  refine List.find?_eq_none.mpr fun key hkey hempty => ?_
  have hvalue : fields.textOr key "" = "" := of_decide_eq_true hempty
  have htext : ∃ text, fields.get? key = some text := by
    simp only [List.mem_cons, List.not_mem_nil, or_false] at hkey
    rcases hkey with rfl | rfl
    · exact ⟨_, hurl⟩
    · exact ⟨_, h.token⟩
  obtain ⟨text, htext⟩ := htext
  rw [Dict.textOr, htext] at hvalue
  exact h.nonEmpty key text htext hvalue

/-! ## 3. How the secrets fail to be made sure of -/

/-- Why the supporting secrets cannot be made sure of. -/
inductive Unusable : Failure → Prop
  | request (cause : RequestFailure) : Unusable (.request cause)
  /-- A secret lacks a key, or has nothing there. -/
  | lacks (secret key : String) : Unusable (.notFound "secret key" (secret ++ "/" ++ key))
  | address : Unusable (.invalid "spec.apiUrl" "must not be empty")

theorem unusable_of_required {data : Dict String} {secret key : String} {e : Failure}
    (h : required data secret key = .error e) : Unusable e := by
  rw [required] at h
  split at h
  · exact absurd h (by simp)
  · rw [← Except.error.inj h]
    exact .lacks secret key

theorem unusable_of_endpointFields {config : WorkloadConfig} {tokens : Dict String} {e : Failure}
    (h : endpointFields config tokens = .error e) : Unusable e := by
  unfold endpointFields at h
  dsimp only at h
  split at h
  · have herror : Except.error (.invalid "spec.apiUrl" "must not be empty") =
        (.error e : Except Failure EndpointFields) := h
    rw [← Except.error.inj herror]
    exact .address
  · cases htoken : required tokens config.tokensSecret ingestTokenSecretKey with
    | ok token =>
      rw [htoken] at h
      exact nomatch h
    | error e' =>
      rw [htoken] at h
      have herror : Except.error e' = (.error e : Except Failure EndpointFields) := h
      exact Except.error.inj herror ▸ unusable_of_required htoken

end Provision

namespace Client

open Provision (Unusable)

variable {σ : Type} {answers : (r : Request) → σ → r.Answer → σ → Prop}
variable {operatorNs ns : String} {config : WorkloadConfig}

theorem failsWith_getObject (resource : ApiResource) (within : Option String) (name : String) :
    FailsWith answers Unusable (ExceptT.mk (getObject resource within name)) := by
  unfold getObject
  split
  · exact failsWith_done fun e he => Except.error.inj he ▸ .request _
  · refine failsWith_bind_done (d := .ask _ .done) fun _ r _ _ e he => ?_
    cases r with
    | ok o => exact nomatch he
    | error status =>
      have herror : Except.error status.failure = (.error e : Except Failure StoredObject) := he
      exact Except.error.inj herror ▸ .request _

/-- **A look-up fails at its request.** -/
theorem failsWith_getAs {α : Type} (resource : ApiResource) (within : Option String) (name : String)
    (read : StoredObject → Except Flaw α) :
    FailsWith answers Unusable (ExceptT.mk (getAs resource within name read)) := by
  refine failsWith_bind_done fun s r s' hr e he => ?_
  cases r with
  | error e' =>
    have hfailed := failsWith_getObject resource within name s e' s' hr
    exact Except.error.inj he ▸ hfailed
  | ok o =>
    dsimp only at he
    cases hread : read o with
    | ok a =>
      rw [hread] at he
      exact nomatch he
    | error f =>
      rw [hread] at he
      exact Except.error.inj he ▸ .request _

theorem failsWith_getIfPresent {α : Type} (resource : ApiResource) (within : Option String)
    (name : String) (read : StoredObject → Except Flaw α) :
    FailsWith answers Unusable (ExceptT.mk (getIfPresent resource within name read)) := by
  refine failsWith_bind_done fun s r s' hr e he => ?_
  cases r with
  | ok a => exact nomatch he
  | error e' =>
    dsimp only at he
    split at he
    · exact nomatch he
    · exact Except.error.inj he ▸ failsWith_getAs resource within name read s e' s' hr

theorem failsWith_createIfAbsent (secret : Secret) :
    FailsWith answers Unusable (ExceptT.mk (createIfAbsent ns secret)) := by
  unfold createIfAbsent
  split
  · exact failsWith_done fun e he => Except.error.inj he ▸ .request _
  · intro s e s' h
    rw [ExceptT.run_mk, steps_ask] at h
    obtain ⟨r, t, -, h⟩ := h
    cases r with
    | ok created => exact absurd (steps_done.mp h).1 (by simp)
    | error status =>
      have he := (steps_done.mp h).1
      split at he
      · exact nomatch he
      · exact Except.error.inj he ▸ .request _

theorem failsWith_operatorSecret (name : String) :
    FailsWith answers Unusable (operatorSecret operatorNs name) :=
  failsWith_bind (failsWith_getAs _ _ _ _) fun _ found _ _ => failsWith_pure found.texts

theorem failsWith_proxy : FailsWith answers Unusable (proxy operatorNs config) := by
  rw [proxy]
  split
  · exact failsWith_pure _
  · refine failsWith_bind (failsWith_operatorSecret _) fun _ data _ _ => ?_
    exact failsWith_map (failsWith_done fun _ => Provision.unusable_of_required)
  · exact failsWith_pure _

/-- **Why a call for the injection config secret fails.** -/
theorem failsWith_ensureInitSecret :
    FailsWith answers Unusable (ensureInitSecret operatorNs config ns) := by
  rw [ensureInitSecret]
  refine failsWith_bind (failsWith_getIfPresent _ _ _ _) fun _ found _ _ => ?_
  cases found with
  | some secret => exact failsWith_pure ()
  | none =>
    refine failsWith_bind (failsWith_operatorSecret _) fun _ tokens _ _ => ?_
    refine failsWith_bind failsWith_proxy fun _ value _ _ => ?_
    exact failsWith_bind (failsWith_createIfAbsent _) fun _ _ _ _ => failsWith_pure ()

/-- **Why a call for the endpoint secret fails.** -/
theorem failsWith_ensureEndpointSecret :
    FailsWith answers Unusable (ensureEndpointSecret operatorNs config ns) := by
  rw [ensureEndpointSecret]
  refine failsWith_bind (failsWith_operatorSecret _) fun _ tokens _ _ => ?_
  refine failsWith_bind (failsWith_done fun _ => Provision.unusable_of_endpointFields)
    fun _ fields _ _ => ?_
  refine failsWith_bind (failsWith_getIfPresent _ _ _ _) fun _ found _ _ => ?_
  cases found with
  | some secret => exact failsWith_pure fields
  | none => exact failsWith_bind (failsWith_createIfAbsent _) fun _ _ _ _ => failsWith_pure fields

/-- **A call for the endpoint secret answers complete fields**, whatever its requests are
answered. -/
theorem serves_of_ensured {fields : EndpointFields}
    (h : (ensureEndpointSecret operatorNs config ns).run.Yields (.ok fields)) :
    ∃ token, Provision.Serves fields config.spec.apiUrl token := by
  obtain ⟨tokens, -, -, -, -, hfields, -, -⟩ := steps_ensureEndpointSecret h
  obtain ⟨token, -, hserves⟩ := Provision.serves_of_endpointFields hfields
  exact ⟨token, hserves⟩

end Client

/-! ## 4. Admissions -/

namespace Admission

variable {σ : Type} {answers : (q : Query) → σ → q.Answer → σ → Prop}
variable {operatorNs ns : String} {pod : Pod}

/-- The supporting secrets are made sure of through requests.  Nothing is said of what the requests
are answered, nor of how other questions are. -/
structure EnsuredBy (operatorNs : String) (answers : (q : Query) → σ → q.Answer → σ → Prop) :
    Prop where
  init : ∀ config ns s r s', answers (.ensureInitSecret config ns) s r s' →
    (Client.ensureInitSecret operatorNs config ns).run.Yields r
  endpoint : ∀ config ns s r s', answers (.ensureEndpointSecret config ns) s r s' →
    (Client.ensureEndpointSecret operatorNs config ns).run.Yields r

/-- An API server makes sure of secrets through requests. -/
theorem ensuredBy_serve (operatorNs : String) :
    EnsuredBy operatorNs (Stateful (serve operatorNs)) where
  init config ns s r s' h := by
    have hsteps := steps_of_serve h
    exact yields_of_steps hsteps
  endpoint config ns s r s' h := by
    have hsteps := steps_of_serve h
    exact yields_of_steps hsteps

/-- The admission was given endpoint fields of which one is missing or empty. -/
def fieldMissing (ns key : String) : AdmissionError :=
  .secrets ns (.invalid key "data-ingest endpoint field is missing")

/-- The second check is what fails so: whoever answers incomplete fields brings it about. -/
theorem steps_fieldMissing {config : WorkloadConfig} {features : Features} {fields : EndpointFields}
    {key : String} {s t s' : σ} (hinit : answers (.ensureInitSecret config ns) s (.ok ()) t)
    (hingest : features.dataIngest = true)
    (hfields : answers (.ensureEndpointSecret config ns) t (.ok fields) s')
    (hmissing : missingField? fields = some key) :
    (provision config features ns).run.Steps answers s (.error (fieldMissing ns key)) s' := by
  rw [provision, run_bind_except, steps_bind]
  refine ⟨.ok (), t, steps_askInitSecret.mpr hinit, ?_⟩
  dsimp only
  rw [hingest, if_pos rfl, run_bind_except, steps_bind]
  refine ⟨.ok fields, s', steps_askEndpointSecret.mpr hfields, ?_⟩
  dsimp only
  rw [hmissing]
  exact .done _ _

/-- The error is not about a missing field. -/
def NotMissing (e : AdmissionError) : Prop := ∀ ns key, e ≠ fieldMissing ns key

theorem notMissing_secrets {f : Failure} (h : Provision.Unusable f) (ns : String) :
    NotMissing (.secrets ns f) := by
  intro ns' key heq
  obtain ⟨-, hfailure⟩ := AdmissionError.secrets.inj heq
  cases h with
  | request cause => exact Failure.noConfusion hfailure
  | lacks secret key => exact Failure.noConfusion hfailure
  | address => exact absurd (Failure.invalid.inj hfailure).2 (by decide)

theorem failsWith_orElse {α : Type} {F : AdmissionError → Prop}
    {d : ClusterDialogue (Except Failure α)} {wrap : Failure → AdmissionError}
    (h : ∀ s f s', d.Steps answers s (.error f) s' → F (wrap f)) :
    FailsWith answers F (orElse d wrap) := by
  refine failsWith_bind_done fun s r s' hr e he => ?_
  cases r with
  | ok a => exact nomatch he
  | error f =>
    have herror : Except.error (wrap f) = (.error e : Except AdmissionError α) := he
    exact Except.error.inj herror ▸ h s f s' hr

theorem failsWith_binding (ns : String) : FailsWith answers NotMissing (binding ns) := by
  rw [binding]
  refine failsWith_bind (failsWith_orElse fun _ _ _ _ _ _ => AdmissionError.noConfusion)
    fun _ found _ _ => ?_
  cases (found.metadata.labels.getD .empty).get? bindingLabel with
  | none =>
    exact failsWith_done fun e he => Except.error.inj he ▸ fun _ _ => AdmissionError.noConfusion
  | some name =>
    refine failsWith_bind (failsWith_orElse fun _ f _ _ _ _ => ?_) fun _ config? _ _ => ?_
    · split <;> exact AdmissionError.noConfusion
    · cases config? with
      | none =>
        exact failsWith_done fun e he => Except.error.inj he ▸ fun _ _ => AdmissionError.noConfusion
      | some config => exact failsWith_pure (found, config)

/-- **What is provisioned is complete**, or it fails for another reason. -/
theorem failsWith_provision (h : EnsuredBy operatorNs answers) (config : WorkloadConfig)
    (features : Features) (ns : String) :
    FailsWith answers NotMissing (provision config features ns) := by
  rw [provision]
  refine failsWith_bind (failsWith_orElse fun s f s' hf => ?_) fun _ _ _ _ => ?_
  · exact notMissing_secrets
      (Client.failsWith_ensureInitSecret _ _ _ (h.init config ns s _ s' (steps_ask_done.mp hf))) ns
  · split
    · refine failsWith_bind (failsWith_orElse fun s f s' hf => ?_) fun s fields s' hfields => ?_
      · exact notMissing_secrets (Client.failsWith_ensureEndpointSecret _ _ _
          (h.endpoint config ns s _ s' (steps_ask_done.mp hf))) ns
      · obtain ⟨token, hserves⟩ := Client.serves_of_ensured
          (h.endpoint config ns s _ s' (steps_askEndpointSecret.mp hfields))
        rw [hserves.missingField?]
        exact failsWith_pure (some fields)
    · exact failsWith_pure none

theorem failsWith_announce (config : WorkloadConfig) (reason : EventReason) (note : String) :
    FailsWith answers NotMissing (announce config reason note) :=
  failsWith_bind_done (g := Except.ok) fun _ _ _ _ _ he => nomatch he

theorem failsWith_act (ws : WebhookSettings) (ns : String) (i : Injection) (pod : Pod) :
    FailsWith answers NotMissing (act ws ns i pod) := by
  rw [act]
  split
  · rw [repair]
    split
    · exact failsWith_bind (failsWith_announce _ _ _) fun _ _ _ _ => failsWith_pure _
    · exact failsWith_pure _
  · rw [inject]
    split
    · refine failsWith_bind (failsWith_map (failsWith_orElse fun _ _ _ _ _ _ =>
        AdmissionError.noConfusion)) fun _ workload _ _ => ?_
      exact failsWith_bind (failsWith_announce _ _ _) fun _ _ _ _ => failsWith_pure _
    · refine failsWith_bind (failsWith_pure none) fun _ workload _ _ => ?_
      exact failsWith_bind (failsWith_announce _ _ _) fun _ _ _ _ => failsWith_pure _

/-- **No admission fails for a missing field.** -/
theorem failsWith_decide (h : EnsuredBy operatorNs answers) (ws : WebhookSettings) (ns : String)
    (pod : Pod) : FailsWith answers NotMissing (decide ws ns pod) := by
  rw [decide_eq]
  refine failsWith_bind (failsWith_binding ns) fun _ bound _ _ => ?_
  rw [proceed]
  split
  · exact failsWith_pure _
  · split
    · exact failsWith_pure _
    · exact failsWith_bind (failsWith_provision h _ _ _) fun _ endpoint _ _ =>
        failsWith_act _ _ _ _

/-- **The endpoint is always complete.**

For every config and every token secret: there are fields exactly if the address has something other
than slashes and a token is given that is not empty; they are the address without the slashes at its
end, with the path of the metrics behind it, and the token; and more slashes change nothing.

Whatever the requests for the endpoint secret are answered, the fields that come of them lack
nothing.  So no admission fails for a missing field if the secrets are made sure of through requests,
however other questions are answered, and none does at an API server. -/
theorem endpoint_complete (operatorNs : String) :
    (∀ (config : WorkloadConfig) (secret : Secret),
      ((∃ fields, Provision.endpointFields config secret.texts = .ok fields) ↔
        (∃ c ∈ config.spec.apiUrl.toList, c ≠ '/') ∧
          ∃ token, secret.Spells "dataIngestToken" token ∧ token ≠ "") ∧
      (∀ fields, Provision.endpointFields config secret.texts = .ok fields →
        ∃ token, secret.Spells "dataIngestToken" token ∧
          Provision.Serves fields config.spec.apiUrl token) ∧
      ∀ n, Provision.endpointFields (Provision.withSlashes config n) secret.texts =
        Provision.endpointFields config secret.texts) ∧
    (∀ config ns fields,
      (Client.ensureEndpointSecret operatorNs config ns).run.Yields (.ok fields) →
        (∃ token, Provision.Serves fields config.spec.apiUrl token) ∧
          missingField? fields = none) ∧
    (∀ {σ : Type} (answers : (q : Query) → σ → q.Answer → σ → Prop),
      EnsuredBy operatorNs answers → ∀ ws ns pod s r s',
        (decide ws ns pod).run.Steps answers s r s' →
          ∀ within key, r ≠ .error (fieldMissing within key)) ∧
    ∀ ws ns pod server within key,
      (served ws operatorNs ns pod server).1 ≠ .error (fieldMissing within key) := by
  have hfailure : ∀ {σ : Type} (answers : (q : Query) → σ → q.Answer → σ → Prop),
      EnsuredBy operatorNs answers → ∀ ws ns pod s r s',
        (decide ws ns pod).run.Steps answers s r s' →
          ∀ within key, r ≠ .error (fieldMissing within key) := by
    rintro σ answers h ws ns pod s r s' hsteps within key rfl
    exact failsWith_decide h ws ns pod s _ s' hsteps within key rfl
  refine ⟨fun config secret => ⟨?_, fun fields hfields => ?_, fun n => ?_⟩,
    fun config ns fields h => ?_, hfailure, fun ws ns pod server within key => ?_⟩
  · simp only [Provision.exists_endpointFields_iff, Secret.get?_texts_iff]
  · simpa only [Secret.get?_texts_iff] using Provision.serves_of_endpointFields hfields
  · exact Provision.endpointFields_withSlashes config n secret.texts
  · have hserves := Client.serves_of_ensured h
    exact ⟨hserves, Exists.elim hserves fun _ => Provision.Serves.missingField?⟩
  · refine hfailure _ (ensuredBy_serve operatorNs) ws ns pod server _
      (served ws operatorNs ns pod server).2 ?_ within key
    exact steps_runState_iff.mpr (runState_expand _ _ _ _)

/-- A token secret whose bytes spell nothing under the key of the endpoint token, and whose text
gives it. -/
def mendedSecret : Secret :=
  { data := some (.ofList [("dataIngestToken", ⟨#[0xff]⟩)])
    stringData := some (.ofList [("dataIngestToken", "t")]) }

/-- Slashes at the end and bytes that spell nothing do no harm, and the admission of the web
application of the shop, where enrichment is on, is told the endpoint. -/
theorem endpoint_complete_shop :
    Provision.endpointFields (Provision.addressedConfig "https://t/api///") mendedSecret.texts =
        .ok (Provision.fieldsOf "https://t/api/v2/metrics/ingest" "t") ∧
      (∃ token, mendedSecret.Spells "dataIngestToken" token ∧
        Provision.Serves (Provision.fieldsOf "https://t/api/v2/metrics/ingest" "t")
          "https://t/api///" token) ∧
      (Client.ensureEndpointSecret "beacon" shopConfig "shop").run.Yields
        (.ok (shopFields "https://beacon.example")) ∧
      missingField? (shopFields "https://beacon.example") = none ∧
      EnsuredBy "beacon" (Stateful (serve "beacon")) ∧
      (∀ r s', (decide shopSettings "shop" Injection.webPod).run.Steps (Stateful (serve "beacon"))
        (World.shopWorld none).server r s' → ∀ within key, r ≠ .error (fieldMissing within key)) ∧
      ∀ within key, (served shopSettings "beacon" "shop" Injection.webPod
        (World.shopWorld none).server).1 ≠ .error (fieldMissing within key) := by
  obtain ⟨hfields, hensured, hruns, hserved⟩ := endpoint_complete "beacon"
  have htoken : mendedSecret.texts.get? "dataIngestToken" = some "t" :=
    Secret.get?_texts_iff.mpr (.inl (by decide +kernel))
  have hshop : Provision.endpointFields (Provision.addressedConfig "https://t/api///")
      mendedSecret.texts = .ok (Provision.fieldsOf "https://t/api/v2/metrics/ingest" "t") :=
    Provision.endpointFields_eq_ok_iff.mpr ⟨by decide +kernel, "t",
      nonEmpty?_eq_some_iff.mpr ⟨htoken, by decide⟩, by decide +kernel⟩
  have hyields := yields_of_steps steps_ensureInShop
  refine ⟨hshop, (hfields _ _).2.1 _ hshop, hyields, (hensured _ _ _ hyields).2,
    ensuredBy_serve "beacon",
    hruns (Stateful (serve "beacon")) (ensuredBy_serve "beacon") shopSettings "shop"
      Injection.webPod (World.shopWorld none).server,
    hserved shopSettings "shop" Injection.webPod (World.shopWorld none).server⟩

end Admission
end InjectionWebhook
