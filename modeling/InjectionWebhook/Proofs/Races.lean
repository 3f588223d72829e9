/-
# Calls that race for a secret

Many calls may make sure of secrets at the same time, and their requests reach the API server in any
order.  A `Race` is a moment of that: the server, what each call has still to do, and the exchanges
so far.  A schedule names who sends next (`Race.follow`), so every interleaving is a schedule.

`Race.Steady` ties each call to the server, and one request keeps it (`Race.Steady.advance`).  It
follows that races lose nothing (`Race.loses_nothing`): no call fails because another was first, each
secret is created once and stays, and no call changes anything else.
-/
import InjectionWebhook.Proofs.Ensuring
import InjectionWebhook.Proofs.Settling
import Mathlib.Logic.Function.Basic

namespace InjectionWebhook

/-! ## 1. Calls and exchanges -/

/-- A call that makes sure of a secret in a namespace, with the namespace of the operator. -/
inductive Call where
  | initSecret (operatorNs : String) (config : WorkloadConfig) (ns : String)
  | endpointSecret (operatorNs : String) (config : WorkloadConfig) (ns : String)

namespace Call

/-- What a call answers. -/
def Answer : Call → Type
  | .initSecret _ _ _ => Unit
  | .endpointSecret _ _ _ => EndpointFields

/-- The namespace of the secret. -/
def ns : Call → String
  | .initSecret _ _ ns => ns
  | .endpointSecret _ _ ns => ns

/-- The name of the secret. -/
def secretName : Call → String
  | .initSecret _ _ _ => "beacon-injection-config"
  | .endpointSecret _ _ _ => "beacon-data-ingest-endpoint"

/-- Where the secret is kept. -/
def path (c : Call) : String := secretPath c.ns c.secretName

/-- The requests of a call. -/
def program : (c : Call) → RequestDialogue (Except Failure c.Answer)
  | .initSecret operatorNs config ns => (Client.ensureInitSecret operatorNs config ns).run
  | .endpointSecret operatorNs config ns => (Client.ensureEndpointSecret operatorNs config ns).run

/-- **A call makes sure of its secret.** -/
theorem ensuring_program {c : Call} (hns : isPathText c.ns = true) :
    Ensuring c.path c.program := by
  cases c with
  | initSecret operatorNs config ns => exact Client.ensuring_ensureInitSecret hns
  | endpointSecret operatorNs config ns => exact Client.ensuring_ensureEndpointSecret hns

end Call

/-- A request that a caller sent, and the server that answered it. -/
structure Exchange (ι : Type) where
  caller : ι
  request : Request
  before : ApiServer

namespace Exchange

variable {ι : Type}

/-- The server afterwards. -/
def after (x : Exchange ι) : ApiServer := (ApiServer.answer x.request x.before).2

/-- The exchange creates the object at a path. -/
def Creates (x : Exchange ι) (path : String) : Prop :=
  x.before.objects.contains path = false ∧ x.after.objects.contains path = true

end Exchange

/-! ## 2. Moments of a race -/

/-- A moment of a race: the server, what each call has still to do, and the exchanges so far, the
last one first. -/
structure Race {ι : Type} (calls : ι → Call) where
  server : ApiServer
  rest : (k : ι) → RequestDialogue (Except Failure (calls k).Answer)
  history : List (Exchange ι) := []

namespace Race

variable {ι : Type} {calls : ι → Call}

/-- No call has sent anything yet. -/
def start (calls : ι → Call) (server : ApiServer) : Race calls :=
  { server, rest := fun k => (calls k).program }

/-- A call could still end well, if no other call sent anything any more. -/
def CanSucceed (w : Race calls) (k : ι) : Prop := EndsWell (w.rest k) w.server

/-- What holds along a race: the server is honest, every call is tied to it, and the exchanges so
far each created what was their own, and no two of them the same. -/
structure Steady (w : Race calls) : Prop where
  honest : w.server.Honest
  tied : ∀ k, Tied (calls k).path (w.rest k) w.server
  past : ∀ x ∈ w.history, ApiServer.Keeps x.after w.server
  own : ∀ x ∈ w.history, ∀ path, path ≠ (calls x.caller).path →
    x.after.objects.get? path = x.before.objects.get? path
  once : w.history.Pairwise fun y x => ∀ path, ¬ (x.Creates path ∧ y.Creates path)

theorem steady_start {server : ApiServer} (hserver : server.Honest)
    (hns : ∀ k, isPathText (calls k).ns = true) : (start calls server).Steady where
  honest := hserver
  tied := fun k => .inl (Call.ensuring_program (hns k))
  past := fun _ hx => absurd hx List.not_mem_nil
  own := fun _ hx => absurd hx List.not_mem_nil
  once := .nil

/-- A call that has something to send is still ensuring its secret. -/
theorem ensuring_of_tied {α : Type} {path : String} {request : Request}
    {next : request.Answer → RequestDialogue (Except Failure α)} {s : ApiServer}
    (h : Tied path (.ask request next) s) : Ensuring path (.ask request next) := by
  rcases h with h | ⟨⟨a, ha⟩, -⟩
  · exact h
  · exact absurd ha (by simp)

/-! ## 3. One request after the other -/

variable [DecidableEq ι]

/-- A caller sends a request, and goes on with the answer. -/
def exchange (w : Race calls) (k : ι) (request : Request)
    (next : request.Answer → RequestDialogue (Except Failure (calls k).Answer)) : Race calls :=
  { server := (ApiServer.answer request w.server).2
    rest := Function.update w.rest k (next (ApiServer.answer request w.server).1)
    history := { caller := k, request, before := w.server } :: w.history }

/-- A caller sends its next request, if there is one. -/
def advance (w : Race calls) (k : ι) : Race calls :=
  match w.rest k with
  | .done _ => w
  | .ask request next => w.exchange k request next

/-- A caller that is done changes nothing; any other sends a request. -/
theorem advance_cases (w : Race calls) (k : ι) :
    w.advance k = w ∨
      ∃ request next, w.rest k = .ask request next ∧ w.advance k = w.exchange k request next := by
  unfold advance
  split
  · exact .inl rfl
  · rename_i request next hask
    exact .inr ⟨request, next, hask, rfl⟩

theorem rest_exchange_self (w : Race calls) (k : ι) (request : Request)
    (next : request.Answer → RequestDialogue (Except Failure (calls k).Answer)) :
    (w.exchange k request next).rest k = next (ApiServer.answer request w.server).1 :=
  Function.update_self _ _ _

theorem rest_exchange_of_ne {w : Race calls} {j k : ι} (h : j ≠ k) (request : Request)
    (next : request.Answer → RequestDialogue (Except Failure (calls k).Answer)) :
    (w.exchange k request next).rest j = w.rest j :=
  Function.update_of_ne h _ _

/-- The callers send their requests in the order of a schedule. -/
def follow (w : Race calls) (schedule : List ι) : Race calls := schedule.foldl advance w

/-- **What every request keeps, a race keeps.** -/
theorem follow_invariant {I : Race calls → Prop} (hstep : ∀ w k, I w → I (w.advance k)) :
    ∀ (schedule : List ι) {w : Race calls}, I w → I (w.follow schedule)
  | [], _, hw => hw
  | k :: schedule, w, hw => follow_invariant hstep schedule (hstep w k hw)

/-- **One request keeps a race steady.** -/
theorem Steady.advance {w : Race calls} (h : w.Steady) (k : ι) : (w.advance k).Steady := by
  rcases advance_cases w k with hsame | ⟨request, next, hask, hadvance⟩
  · rw [hsame]
    exact h
  · have htied := h.tied k
    rw [hask] at htied
    obtain ⟨hmine, hothers⟩ := (ensuring_of_tied htied).exchange h.honest
    have hkeeps := ApiServer.keeps_answer request w.server
    rw [hadvance]
    refine ⟨hkeeps.honest h.honest, fun j => ?_, fun x hx => ?_, fun x hx path hpath => ?_, ?_⟩
    · by_cases hj : j = k
      · subst hj
        rw [rest_exchange_self]
        exact hmine
      · rw [rest_exchange_of_ne hj]
        exact (h.tied j).keeps hkeeps
    · rcases List.mem_cons.mp hx with rfl | hx
      · exact ApiServer.Keeps.refl _
      · exact (h.past x hx).trans hkeeps
    · rcases List.mem_cons.mp hx with rfl | hx
      · exact hothers path hpath
      · exact h.own x hx path hpath
    · refine List.pairwise_cons.mpr ⟨fun x hx path hboth => ?_, h.once⟩
      -- What was created before is there when the last request is sent.
      have hthere := (h.past x hx).contains hboth.1.2
      exact absurd (hthere.symm.trans hboth.2.1) (by decide)

/-- **A call that can succeed still can after any request**, of its own or of another call. -/
theorem CanSucceed.advance {w : Race calls} (h : w.Steady) {j : ι} (hj : w.CanSucceed j)
    (k : ι) : (w.advance k).CanSucceed j := by
  rcases advance_cases w k with hsame | ⟨request, next, hask, hadvance⟩
  · rw [hsame]
    exact hj
  · rw [hadvance]
    unfold CanSucceed at hj ⊢
    by_cases hne : j = k
    · subst hne
      rw [hask] at hj
      rw [rest_exchange_self]
      exact hj
    · rw [rest_exchange_of_ne hne]
      rcases h.tied j with htied | ⟨hdone, -⟩
      · exact htied.endsWell_mono (ApiServer.grows_answer request w.server) h.honest hj
      · exact hdone.endsWell _

/-! ## 4. What a race leaves -/

/-- What a race leaves of the calls and of the server. -/
structure LosesNothing (w : Race calls) : Prop where
  /-- A call that could end well alone ends well, whatever the others send. -/
  succeeds : ∀ k, w.CanSucceed k → ∀ more r, (w.follow more).rest k = .done r → ∃ a, r = .ok a
  /-- No call fails because a name is taken. -/
  unconflicted : ∀ k e, w.rest k = .done (.error e) → e.saysConflict = false
  /-- No two requests create the object at one path. -/
  once : w.history.Pairwise fun y x => ∀ path, ¬ (x.Creates path ∧ y.Creates path)
  /-- What is there stays as it is. -/
  stays : ∀ more, ApiServer.Keeps w.server (w.follow more).server
  /-- No request changes anything but the secret of its call. -/
  own : ∀ x ∈ w.history, ∀ path, path ≠ (calls x.caller).path →
    x.after.objects.get? path = x.before.objects.get? path
  /-- After a call ended well its secret is there. -/
  there : ∀ k a, w.rest k = .done (.ok a) → w.server.objects.contains (calls k).path = true

theorem keeps_advance (w : Race calls) (k : ι) :
    ApiServer.Keeps w.server (w.advance k).server := by
  rcases advance_cases w k with hsame | ⟨request, next, -, hadvance⟩
  · rw [hsame]
    exact ApiServer.Keeps.refl _
  · rw [hadvance]
    exact ApiServer.keeps_answer request w.server

theorem Steady.losesNothing {w : Race calls} (h : w.Steady) : w.LosesNothing where
  succeeds := by
    intro k hk more r hr
    have hlater : ((w.follow more).Steady ∧ (w.follow more).CanSucceed k) :=
      follow_invariant (I := fun v => v.Steady ∧ v.CanSucceed k)
        (fun v j hv => ⟨hv.1.advance j, hv.2.advance hv.1 j⟩) more ⟨h, hk⟩
    obtain ⟨a, ha⟩ := hlater.2
    rw [hr] at ha
    exact ⟨a, ha⟩
  unconflicted := by
    intro k e hfailed
    have htied := h.tied k
    rw [hfailed] at htied
    rcases htied with hensuring | ⟨⟨a, ha⟩, -⟩
    · cases hensuring with
      | failed refuses =>
        obtain ⟨e', he', hsame⟩ := refuses
        rw [Except.error.inj (Dialogue.done.inj hsame)]
        exact he'
    · exact absurd ha (by simp)
  once := h.once
  stays := fun more =>
    follow_invariant (I := fun v => ApiServer.Keeps w.server v.server)
      (fun v k hv => hv.trans (keeps_advance v k)) more (ApiServer.Keeps.refl _)
  own := h.own
  there := by
    intro k a hdone
    have htied := h.tied k
    rw [hdone] at htied
    rcases htied with hensuring | ⟨-, hthere⟩
    · cases hensuring with
      | failed refuses =>
        obtain ⟨e, -, hsame⟩ := refuses
        exact absurd (Dialogue.done.inj hsame) (by simp)
    · exact hthere

/-- **Races lose nothing.**  However the requests of any number of calls interleave on an honest
server, for namespaces whose names can stand in a path, no call fails because another created a
secret first, each secret is created by one request at most and stays as it was created, a call that
ended well left its secret there, and no call changes anything else. -/
theorem loses_nothing {server : ApiServer} (hserver : server.Honest)
    (hns : ∀ k, isPathText (calls k).ns = true) (schedule : List ι) :
    ((start calls server).follow schedule).LosesNothing := by
  have hsteady : ((start calls server).follow schedule).Steady :=
    follow_invariant (fun _ k hw => hw.advance k) schedule (steady_start hserver hns)
  exact hsteady.losesNothing

/-! ## 5. A small race -/

/-- A server that has the tokens of the small shop and nothing else. -/
def shopServer : ApiServer :=
  { objects := .ofList
      [(secretPath "beacon" "shop-config",
        .secret { data := some (.ofList [(Provision.downloadTokenKey, "p".toUTF8)]) })] }

/-- Two calls for the injection config secret of the shop. -/
def shopCalls (_ : Bool) : Call := .initSecret "beacon" Admission.shopConfig "shop"

/-- Both look for the secret and read the tokens before one of them creates it. -/
def shopRace : Race shopCalls :=
  (start shopCalls shopServer).follow [false, true, false, true, false, true]

theorem endsWell_of_isOk {α : Type} {d : RequestDialogue (Except Failure α)} {s : ApiServer}
    (h : (d.runState ApiServer.answer s).1.isOk = true) : EndsWell d s := by
  unfold EndsWell
  cases hr : (d.runState ApiServer.answer s).1 with
  | ok a => exact ⟨a, rfl⟩
  | error e =>
    rw [hr] at h
    exact absurd h Bool.false_ne_true

/-- Both calls of the small race end well, though both try to create the secret. -/
theorem both_succeed_in_shop :
    shopServer.Honest ∧ (∀ k, isPathText (shopCalls k).ns = true) ∧
      shopRace.history.map (·.request.line?) =
        [some "POST /api/v1/namespaces/shop/secrets", some "POST /api/v1/namespaces/shop/secrets",
          some "GET /api/v1/namespaces/beacon/secrets/shop-config",
          some "GET /api/v1/namespaces/beacon/secrets/shop-config",
          some "GET /api/v1/namespaces/shop/secrets/beacon-injection-config",
          some "GET /api/v1/namespaces/shop/secrets/beacon-injection-config"] ∧
      shopRace.LosesNothing ∧ ∀ k, Succeeds (shopRace.rest k) := by
  have hhonest : shopServer.Honest :=
    fun _ _ h => absurd h (by simp [shopServer, Dict.get?, Dict.empty])
  have hns : ∀ k, isPathText (shopCalls k).ns = true := by decide
  have hcan : ∀ k, (start shopCalls shopServer).CanSucceed k := by
    intro k
    refine endsWell_of_isOk ?_
    cases k <;> decide +kernel
  have hbefore : (start shopCalls shopServer).LosesNothing := loses_nothing hhonest hns []
  refine ⟨hhonest, hns, by decide +kernel, loses_nothing hhonest hns _, fun k => ?_⟩
  obtain ⟨r, hdone⟩ : ∃ r, shopRace.rest k = .done r := by
    cases k <;> exact ⟨_, rfl⟩
  obtain ⟨a, rfl⟩ := hbefore.succeeds k (hcan k) _ r hdone
  exact ⟨a, hdone⟩

end Race

end InjectionWebhook
