/-
# The limit of an admission

An admission whose questions take too long is cut short.  This file says how: compared with the same
request where no question takes time, either nothing is different, or the Pod is refused after the
first questions of that run, the last of which was still open when time was up (`Webhook.CutShort`).

* `runWithin_of_le`, `runWithin_of_lt`: a run within a limit is the whole run, or it is stopped at
  the first question with which the questions take more than the limit (`Dialogue.Stopped`);
* `silent_of_stopped`: a run that is stopped has announced nothing, since an announcement takes no
  time and comes last;
* `Webhook.expires_iff`: a request expires exactly if its questions take more than the limit.
-/
import InjectionWebhook.Json.Writer
import InjectionWebhook.Proofs.Exits
import InjectionWebhook.Proofs.Settling
import InjectionWebhook.Review.Endpoint

namespace InjectionWebhook

/-! ## 1. Runs within a limit -/

namespace Dialogue

variable {Q : Type} {A : Q → Type} {α : Type}

/-- What questions take, one after the other. -/
def total (cost : Q → Nat) : List Q → Nat
  | [] => 0
  | q :: asked => cost q + total cost asked

@[simp] theorem total_nil (cost : Q → Nat) : total cost [] = 0 := rfl

@[simp] theorem total_cons (cost : Q → Nat) (q : Q) (asked : List Q) :
    total cost (q :: asked) = cost q + total cost asked := rfl

@[simp] theorem total_append (cost : Q → Nat) (first rest : List Q) :
    total cost (first ++ rest) = total cost first + total cost rest := by
  induction first with
  | nil => exact (Nat.zero_add _).symm
  | cons q first ih => rw [List.cons_append, total_cons, total_cons, ih, Nat.add_assoc]

theorem total_zero (asked : List Q) : total (fun _ => 0) asked = 0 := by
  induction asked with
  | nil => rfl
  | cons q asked ih => rw [total_cons, ih]

/-- The questions up to the first with which they take more than the limit. -/
structure Stopped (cost : Q → Nat) (limit : Nat) (full asked : List Q) : Prop where
  start : asked <+: full
  exceeded : limit < total cost asked
  within : total cost asked.dropLast ≤ limit

variable {answer : (q : Q) → A q} {cost : Q → Nat} {d : Dialogue Q A α} {limit : Nat}

/-- **With time enough a run is the whole run.** -/
theorem runWithin_of_le (h : total cost (d.run answer).2 ≤ limit) :
    d.runWithin answer cost limit = (some (d.run answer).1, (d.run answer).2) := by
  induction d generalizing limit with
  | done a => rfl
  | ask q next ih =>
    rw [run_ask, total_cons] at h
    rw [runWithin, if_neg (by omega), ih (answer q) (by omega), run_ask]

theorem Stopped.cons {q : Q} {full asked : List Q}
    (h : Stopped cost (limit - cost q) full asked) (hq : cost q ≤ limit) :
    Stopped cost limit (q :: full) (q :: asked) where
  start := List.cons_prefix_cons.mpr ⟨rfl, h.start⟩
  exceeded := by
    have hover := h.exceeded
    rw [total_cons]
    omega
  within := by
    have hover := h.exceeded
    have hwithin := h.within
    cases asked with
    | nil => exact absurd hover (Nat.not_lt_zero _)
    | cons q' asked =>
      rw [List.dropLast_cons_of_ne_nil (List.cons_ne_nil q' asked), total_cons]
      omega

/-- **Without it a run has no result**, and it is stopped as soon as time is up. -/
theorem runWithin_of_lt (h : limit < total cost (d.run answer).2) :
    (d.runWithin answer cost limit).1 = none ∧
      Stopped cost limit (d.run answer).2 (d.runWithin answer cost limit).2 := by
  induction d generalizing limit with
  | done a => exact absurd h (Nat.not_lt_zero _)
  | ask q next ih =>
    rw [run_ask, total_cons] at h
    rw [run_ask, runWithin]
    by_cases hq : limit < cost q
    · rw [if_pos hq]
      exact ⟨rfl, ⟨_, rfl⟩, by simpa using hq, Nat.zero_le _⟩
    · rw [if_neg hq]
      have hrest : limit - cost q < total cost ((next (answer q)).run answer).2 := by omega
      obtain ⟨hnone, hstopped⟩ := ih (answer q) hrest
      exact ⟨hnone, hstopped.cons (by omega)⟩

/-- A run has a result exactly if there is time enough. -/
theorem runWithin_eq_none_iff :
    (d.runWithin answer cost limit).1 = none ↔ limit < total cost (d.run answer).2 := by
  refine ⟨fun hnone => ?_, fun h => (runWithin_of_lt h).1⟩
  rcases Nat.lt_or_ge limit (total cost (d.run answer).2) with h | h
  · exact h
  · rw [runWithin_of_le h] at hnone
    exact absurd hnone (by simp)

end Dialogue

/-! ## 2. A stopped admission announces nothing -/

namespace Admission

open Dialogue

variable {answer : (q : Query) → q.Answer} {cost : Query → Nat} {limit : Nat}

/-- **Whoever is stopped has announced nothing**: an announcement takes no time, and nothing comes
after it. -/
theorem silent_of_stopped (free : ∀ event, cost (.announce event) = 0) {pod : Pod}
    {full asked : List Query} {report : Report} (orderly : Orderly answer pod full report)
    (stopped : Stopped cost limit full asked) : Silent asked := by
  by_cases hpatched : ∃ p warnings, report = .ok (.patched p warnings)
  · obtain ⟨p, warnings, hreport⟩ := hpatched
    obtain ⟨calls, event, rfl, hsilent, -⟩ := orderly.announced p warnings hreport
    rcases List.prefix_concat_iff.mp stopped.start with rfl | hstart
    · -- the announcement itself cannot have taken too long
      have hover := stopped.exceeded
      have hwithin := stopped.within
      rw [List.dropLast_concat] at hwithin
      rw [total_append, total_cons, free event, total_nil] at hover
      omega
    · exact fun q hq => hsilent q (hstart.subset hq)
  · have hsilent := orderly.silent fun p warnings hreport => hpatched ⟨p, warnings, hreport⟩
    exact fun q hq => hsilent q (stopped.start.subset hq)

end Admission

/-! ## 3. Requests with a limit -/

namespace Webhook

open Dialogue Admission

section Limit

variable (w : Webhook) (answer : (q : Query) → q.Answer) (cost : Query → Duration)

/-- The answer to a request, and the questions asked, where no question takes time. -/
def serveAtOnce (r : HttpRequest) : HttpResponse × List Query := w.serve answer (fun _ => ⟨0⟩) r

/-- The time that questions take, one after the other. -/
def timeOf (asked : List Query) : Duration := ⟨total (fun q => (cost q).nanoseconds) asked⟩

/-- The request has a Pod to decide about, and time is up before there is a decision. -/
def Expires (r : HttpRequest) : Prop :=
  ∃ review request pod, intake r = .consider review request pod ∧
    ((w.decision request pod).runWithin answer (fun q => (cost q).nanoseconds)
      w.limit.nanoseconds).1 = none

/-- The answer to a request whose time is up: the Pod is refused with the code 500. -/
def expiredAnswer (r : ReviewRequest) : ReviewAnswer :=
  { uid := r.uid, allowed := false
    message := some ("admission deadline of " ++ w.limit.text ++ " exceeded"), code := some 500
    patch := none, warnings := [] }

/-- What becomes of a request whose time is up. -/
structure CutShort (r : HttpRequest) : Prop where
  /-- The Pod is refused because time is up, without a patch and without warnings. -/
  refused : ∃ review request pod, intake r = .consider review request pod ∧
    (w.serve answer cost r).1 =
      { status := 200, body := .json ((w.expiredAnswer request).toJson review) }
  /-- The questions are the first ones of the run where no question takes time. -/
  start : (w.serve answer cost r).2 <+: (w.serveAtOnce answer r).2
  /-- Nothing is announced. -/
  silent : Silent (w.serve answer cost r).2
  /-- Time was up with the last question, -/
  exceeded : w.limit.nanoseconds < (timeOf cost (w.serve answer cost r).2).nanoseconds
  /-- and not before it. -/
  within : (timeOf cost (w.serve answer cost r).2.dropLast).nanoseconds ≤ w.limit.nanoseconds

end Limit

section Serving

variable {w : Webhook} {answer : (q : Query) → q.Answer} {cost : Query → Duration}
  {r : HttpRequest} {review : Review} {request : ReviewRequest} {pod : Pod}

/-- A request that is answered at once has no time to take. -/
theorem serve_of_reply {response : HttpResponse} (h : intake r = .reply response) :
    w.serve answer cost r = (response, []) := by
  rw [serve, h]

theorem serve_of_consider (h : intake r = .consider review request pod) :
    w.serve answer cost r =
      (answerOf review request pod
          (((w.decision request pod).runWithin answer (fun q => (cost q).nanoseconds)
            w.limit.nanoseconds).1.getD (.error (.expired w.limit))),
        ((w.decision request pod).runWithin answer (fun q => (cost q).nanoseconds)
          w.limit.nanoseconds).2) := by
  rw [serve, h]

/-- Where no question takes time, the decision is made. -/
theorem serveAtOnce_of_consider (h : intake r = .consider review request pod) :
    w.serveAtOnce answer r =
      (answerOf review request pod ((w.decision request pod).run answer).1,
        ((w.decision request pod).run answer).2) := by
  have hfree : total (fun _ => 0) ((w.decision request pod).run answer).2 ≤
      w.limit.nanoseconds := by
    rw [total_zero]
    exact Nat.zero_le _
  rw [serveAtOnce, serve_of_consider h, runWithin_of_le hfree, Option.getD_some]

/-- The limit does not matter where no question takes time. -/
theorem serveAtOnce_limit (w : Webhook) (limit : Duration) :
    { w with limit }.serveAtOnce answer r = w.serveAtOnce answer r := by
  cases hintake : intake r with
  | reply response => rw [serveAtOnce, serveAtOnce, serve_of_reply hintake, serve_of_reply hintake]
  | consider review request pod =>
    rw [serveAtOnce_of_consider hintake, serveAtOnce_of_consider hintake]
    rfl

/-- **A request expires exactly if its questions take more than the limit.** -/
theorem expires_iff :
    w.Expires answer cost r ↔
      w.limit.nanoseconds < (timeOf cost (w.serveAtOnce answer r).2).nanoseconds := by
  constructor
  · rintro ⟨review, request, pod, hintake, hnone⟩
    rw [serveAtOnce_of_consider hintake]
    exact runWithin_eq_none_iff.mp hnone
  · intro hover
    cases hintake : intake r with
    | reply response =>
      rw [serveAtOnce, serve_of_reply hintake] at hover
      exact absurd hover (Nat.not_lt_zero _)
    | consider review request pod =>
      rw [serveAtOnce_of_consider hintake] at hover
      exact ⟨review, request, pod, hintake, runWithin_eq_none_iff.mpr hover⟩

/-- With time enough a request is served as if no question took time. -/
theorem serve_of_not_expires (h : ¬ w.Expires answer cost r) :
    w.serve answer cost r = w.serveAtOnce answer r := by
  rw [expires_iff, Nat.not_lt] at h
  cases hintake : intake r with
  | reply response => rw [serveAtOnce, serve_of_reply hintake, serve_of_reply hintake]
  | consider review request pod =>
    rw [serveAtOnce_of_consider hintake] at h ⊢
    rw [serve_of_consider hintake, runWithin_of_le h, Option.getD_some]

/-- Without it the request is cut short. -/
theorem cutShort_of_expires (free : ∀ event, cost (.announce event) = ⟨0⟩)
    (h : w.Expires answer cost r) : w.CutShort answer cost r := by
  obtain ⟨review, request, pod, hintake, hnone⟩ := h
  have hserve : w.serve answer cost r = _ := serve_of_consider hintake
  obtain ⟨-, hstopped⟩ := runWithin_of_lt (runWithin_eq_none_iff.mp hnone)
  rw [hnone, Option.getD_none] at hserve
  constructor
  case refused =>
    refine ⟨review, request, pod, hintake, ?_⟩
    rw [hserve]
    rfl
  case start =>
    rw [hserve, serveAtOnce_of_consider hintake]
    exact hstopped.start
  case silent =>
    rw [hserve]
    have hexit := exit_of_run answer w.settings (request.namespace_.getD "") pod
    exact silent_of_stopped (fun event => congrArg Duration.nanoseconds (free event))
      (orderly_of_exit hexit) hstopped
  case exceeded =>
    rw [hserve]
    exact hstopped.exceeded
  case within =>
    rw [hserve]
    exact hstopped.within

/-- **A limit only ever cuts an admission short.**  For every webhook, cluster, request and time that
the questions take, announcements apart: if together the questions of the undelayed run take no more
than the limit, nothing is different from that run, and if they take more, the request is cut short.
So what is answered within a limit is answered the same within every longer one. -/
theorem serve_cut (w : Webhook) (answer : (q : Query) → q.Answer) (cost : Query → Duration)
    (r : HttpRequest) (free : ∀ event, cost (.announce event) = ⟨0⟩) :
    ((timeOf cost (w.serveAtOnce answer r).2).nanoseconds ≤ w.limit.nanoseconds →
        ¬ w.Expires answer cost r ∧ w.serve answer cost r = w.serveAtOnce answer r) ∧
      (w.limit.nanoseconds < (timeOf cost (w.serveAtOnce answer r).2).nanoseconds →
        w.Expires answer cost r ∧ w.CutShort answer cost r) ∧
      ∀ longer : Duration, w.limit.nanoseconds ≤ longer.nanoseconds →
        ¬ w.Expires answer cost r →
        ¬ { w with limit := longer }.Expires answer cost r ∧
          { w with limit := longer }.serve answer cost r = w.serve answer cost r := by
  refine ⟨fun hle => ?_, fun hover => ?_, fun longer hlonger hanswered => ?_⟩
  · have hanswered : ¬ w.Expires answer cost r := by
      rw [expires_iff]
      omega
    exact ⟨hanswered, serve_of_not_expires hanswered⟩
  · have hexpires : w.Expires answer cost r := expires_iff.mpr hover
    exact ⟨hexpires, cutShort_of_expires free hexpires⟩
  · have hstill : ¬ { w with limit := longer }.Expires answer cost r := by
      rw [expires_iff] at hanswered ⊢
      rw [serveAtOnce_limit]
      dsimp only
      omega
    rw [serve_of_not_expires hanswered, serve_of_not_expires hstill, serveAtOnce_limit]
    exact ⟨hstill, rfl⟩

/-- A request to review a Pod in the shop, with no more in it than a review needs. -/
def shopReview : HttpRequest :=
  { method := "POST", target := "/inject", contentType := some "application/json"
    body := Json.render (.record
      [("apiVersion", some (.str "v1")), ("kind", some (.str "AdmissionReview")),
       ("request", some (.record
         [("uid", some (.str "")),
          ("kind", some (.record
            [("group", some (.str "")), ("version", some (.str "")), ("kind", some (.str ""))])),
          ("resource", some (.record
            [("group", some (.str "")), ("version", some (.str "")),
             ("resource", some (.str ""))])),
          ("namespace", some (.str "shop")), ("operation", some (.str "CREATE")),
          ("userInfo", some (.record [])), ("object", some (.record []))]))]) }

/-- The small shop, where two of the questions take their time: five seconds together. -/
def slowShop : ClusterScript :=
  { shopCluster with
    delays := .ofList [("get_namespace", .ofSeconds 2), ("ensure_init_secret", .ofSeconds 3)] }

/-- A webhook with a limit for the shop. -/
def shopWebhook (limit : Duration) : Webhook := { settings := shopSettings, limit }

/-- Four seconds cut the review short, and five do not. -/
theorem serve_shopReview :
    (∀ event, slowShop.delay (.announce event) = ⟨0⟩) ∧
      (shopWebhook (.ofSeconds 4)).CutShort slowShop.answer slowShop.delay shopReview ∧
      (shopWebhook (.ofSeconds 5)).serve slowShop.answer slowShop.delay shopReview =
        (shopWebhook (.ofSeconds 5)).serveAtOnce slowShop.answer shopReview := by
  have free : ∀ event, slowShop.delay (.announce event) = ⟨0⟩ := fun _ => rfl
  have htime : timeOf slowShop.delay
      ((shopWebhook (.ofSeconds 5)).serveAtOnce slowShop.answer shopReview).2 = .ofSeconds 5 := by
    decide +kernel
  have hcut := (serve_cut (shopWebhook (.ofSeconds 4)) slowShop.answer slowShop.delay shopReview
    free).2.1
  have hwhole := (serve_cut (shopWebhook (.ofSeconds 5)) slowShop.answer slowShop.delay shopReview
    free).1
  refine ⟨free, (hcut ?_).2, (hwhole (by rw [htime]; exact Nat.le_refl _)).2⟩
  have hlimit : (shopWebhook (.ofSeconds 4)).serveAtOnce slowShop.answer shopReview =
      (shopWebhook (.ofSeconds 5)).serveAtOnce slowShop.answer shopReview :=
    serveAtOnce_limit (shopWebhook (.ofSeconds 5)) (.ofSeconds 4)
  rw [hlimit, htime]
  decide

end Serving

end Webhook

end InjectionWebhook
