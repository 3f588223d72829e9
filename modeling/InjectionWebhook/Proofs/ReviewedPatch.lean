/-
# Patches for the object under review

The patch in an answer is computed from two Pods, the one that was read and the changed one, but the
API server carries it out on the object it sent.  That object says more than the Pod: it has members
that Pods do not know, and `null` for what is not given.

Still the patch is right for it (`Webhook.patch_reaches_object`).  That it can be carried out and
gives the changed Pod is so for any two Pods (`Pod.exists_patchedRaw`), as long as what is required is
there (`Pod.CompleteIn`).  That nothing else is lost on the way is because injections and repairs take
no part of a Pod away.
-/
import InjectionWebhook.Proofs.Growth
import InjectionWebhook.Proofs.ReviewedObject
import InjectionWebhook.Proofs.Settling
import InjectionWebhook.Review.Endpoint

namespace InjectionWebhook

open Json (Path Kept)
open Entries (Ascending)

namespace Pod

/-! ## 1. Patching the object -/

/-- The object says something other than `null` wherever the Pod read from it is written.  What is
optional is there because it was read; so the object has metadata and all that is required.  API
version and kind may be missing. -/
def CompleteIn (pod : Pod) (raw : Json) : Prop :=
  ∀ k rest, DocumentType.isKey k = false → (pod.toJson.get? (.key k :: rest)).isSome →
    ∃ v, raw.get? (.key k :: rest) = some v ∧ v ≠ .null

/-- The patch between two Pods, carried out on an object that the first one was read from. -/
structure PatchedRaw (pod p : Pod) (raw raw' : Json) : Prop where
  applied : (pod.patchTo p).applyTo? raw = some raw'
  canonical : raw'.Canonical
  reads : ReadFrom raw' p
  /-- If the first Pod can be read in one stage, so can the second. -/
  decodes : decoder.ofJson raw = .ok pod → decoder.ofJson raw' = .ok p
  /-- What no Pod is written with stays, unless its surroundings are taken away. -/
  keeps : ∀ π v, Foreign toJson π → Kept pod.toJson p.toJson π → raw.get? π = some v →
    raw'.get? π = some v

/-- An object is complete if its members are, slot by slot. -/
theorem completeIn_iff {pod : Pod} {ms : List (String × Json)} :
    pod.CompleteIn (.obj ms) ↔ record.CoveredBy pod ms := by
  have hslot : ∀ slot ∈ record.slots, ∀ rest, pod.toJson.get? (.key slot.key :: rest) =
      ((slot.get pod).map slot.format.encode).bind (·.get? rest) := by
    intro slot hslot rest
    rw [toJson_eq, Record.encode_eq, Json.get?_obj_key, record.lookup_written hslot]
  constructor
  · intro h slot hmem a ha
    have hthere : ∀ rest, ((slot.format.encode a).get? rest).isSome →
        (pod.toJson.get? (.key slot.key :: rest)).isSome := by
      intro rest hrest
      rw [hslot slot hmem, ha]
      exact hrest
    have hkey := not_isKey_of_slot hmem
    obtain ⟨v, hv, hne⟩ := h slot.key [] hkey (hthere [] (by simp))
    have hlookup : ms.lookup slot.key = some v := by simpa using hv
    refine ⟨v, hlookup, hne, fun π hπ => ?_⟩
    obtain ⟨w, hw, hne'⟩ := h slot.key π hkey (hthere π hπ)
    exact ⟨w, by simpa [hlookup] using hw, hne'⟩
  · intro h k rest hk hthere
    rcases record.strange_or_mem k with hstrange | ⟨slot, hmem, rfl⟩
    · have hconstant : record.constants.lookup k = none := by
        cases hconstant : record.constants.lookup k with
        | none => rfl
        | some text => exact absurd (hk.symm.trans (isKey_of_constant hconstant)) (by simp)
      rw [toJson_eq, Record.encode_eq, Json.get?_obj_key, record.lookup_written_of_strange hstrange,
        hconstant] at hthere
      exact absurd hthere (by simp)
    · rw [hslot slot hmem] at hthere
      cases ha : slot.get pod with
      | none =>
        rw [ha] at hthere
        exact absurd hthere (by simp)
      | some a =>
        rw [ha] at hthere
        obtain ⟨v, hv, -, hcovers⟩ := h slot hmem a ha
        obtain ⟨w, hw, hne⟩ := hcovers rest hthere
        exact ⟨w, by rw [Json.get?_obj_key, hv, Option.bind_some, hw], hne⟩

theorem ReadFrom.exists_members {raw : Json} {pod : Pod} (h : ReadFrom raw pod) :
    ∃ ms, raw = .obj ms := by
  obtain ⟨o, ho, -⟩ := h
  cases raw with
  | obj ms => exact ⟨ms, rfl⟩
  | _ => exact nomatch ho

/-- A Pod that was read can be read back. -/
theorem ReadFrom.fits {raw : Json} (hraw : raw.Canonical) {pod : Pod} (h : ReadFrom raw pod) :
    record.Fits pod := by
  obtain ⟨ms, rfl⟩ := h.exists_members
  obtain ⟨o, ho, hpod⟩ := h
  rw [ReviewedObject.pod, ReviewedObject.toJson_eq] at hpod
  exact record.format.fits_of_read (ReviewedObject.assembled hraw ho).canonical hpod

/-- The members of the object show the Pod, its metadata included. -/
theorem shows_of_readFrom {ms : List (String × Json)} (hms : (Json.obj ms).Canonical) {pod : Pod}
    (h : ReadFrom (.obj ms) pod) : record.Shows ms pod := by
  obtain ⟨-, hmetadata, hrest⟩ := (readFrom_iff hms).mp h
  intro slot hslot
  by_cases heq : slot = metadataSlot
  · rw [heq]
    change metadataSlot.Shows (ms.lookup "metadata") (some pod.metadata)
    cases hlookup : ms.lookup "metadata" with
    | none =>
      rw [hlookup] at hmetadata
      exact congrArg some (Except.ok.inj hmetadata).symm
    | some j =>
      rw [hlookup] at hmetadata
      obtain ⟨m, hread, rfl⟩ := map_eq_ok.mp hmetadata
      exact Slot.shows_of_read hread
  · exact hrest slot hslot heq

/-- Members that say what type of document an object is belong to no slot. -/
theorem strange_of_isKey {k : String} (h : DocumentType.isKey k = true) : record.Strange k := by
  intro slot hslot heq
  rw [← heq, not_isKey_of_slot hslot] at h
  exact Bool.false_ne_true h

/-- The type depends on the members that say it. -/
theorem retype_congr {ms ms' : List (String × Json)} (hms : Ascending ms) (hms' : Ascending ms')
    (h : ∀ k, DocumentType.isKey k = true → ms'.lookup k = ms.lookup k) :
    DocumentType.retype ms' = DocumentType.retype ms := by
  funext k
  rw [DocumentType.retype, DocumentType.retype, DocumentType.membersOf_congr hms hms' h]

/-- **Between any two Pods** the patch is right for an object that the first was read from. -/
theorem exists_patchedRaw {raw : Json} (hraw : raw.Canonical) {pod p : Pod}
    (hread : ReadFrom raw pod) (hcomplete : pod.CompleteIn raw) (hp : record.Fits p) :
    ∃ raw', PatchedRaw pod p raw raw' := by
  obtain ⟨ms, rfl⟩ := hread.exists_members
  obtain ⟨ms', hupdated⟩ := Record.exists_updated_members hraw (shows_of_readFrom hraw hread)
    (completeIn_iff.mp hcomplete) hp
  have hascending := (Json.canonical_obj.mp hraw).1
  have hascending' := (Json.canonical_obj.mp hupdated.canonical).1
  obtain ⟨htype, -, -⟩ := (readFrom_iff hraw).mp hread
  refine ⟨.obj ms', hupdated.applied, hupdated.canonical, ?_, ?_, hupdated.keeps⟩
  · -- API version and kind belong to no slot: they stay, and so does what becomes of them.
    refine (readFrom_iff hupdated.canonical).mpr ⟨?_, ?_, ?_⟩
    · rw [TypeFits, retype_congr hascending hascending' fun k hk =>
        hupdated.strange k (strange_of_isKey hk)]
      exact htype
    · obtain ⟨j, hj, hread⟩ := hupdated.reads metadataSlot metadataSlot_mem p.metadata rfl
      have hlookup : ms'.lookup "metadata" = some j := hj
      rw [hlookup]
      exact map_eq_ok.mpr ⟨p.metadata, hread, rfl⟩
    · exact fun slot hslot _ => hupdated.shows slot hslot
  · intro hdecodes
    rw [decoder_eq, Record.ofJson_iff hraw] at hdecodes
    obtain ⟨_, ⟨⟩, hfixed, -⟩ := hdecodes
    rw [decoder_eq, Record.ofJson_iff hupdated.canonical]
    refine ⟨ms', rfl, fun k text htext j hj => ?_, hupdated.shows⟩
    rw [hupdated.strange k (Record.strange_constant (Entries.mem_of_lookup htext))] at hj
    exact hfixed k text htext j hj

/-- A patch that changes the Pod is not empty. -/
theorem PatchedRaw.ne_nil {pod p : Pod} {raw raw' : Json} (h : PatchedRaw pod p raw raw')
    (hread : ReadFrom raw pod) (hne : p ≠ pod) : pod.patchTo p ≠ [] := by
  intro hnil
  have happlied := h.applied
  rw [hnil, Json.Patch.applyTo?_nil, Option.some.injEq] at happlied
  exact hne (ReadFrom.unique (happlied ▸ h.reads) hread)

end Pod

/-! ## 2. The patch in an answer -/

namespace Admission

open Dialogue

variable {σ : Type} {answers : (q : Query) → σ → q.Answer → σ → Prop} {s s' : σ}

/-- A patched Pod was injected, or repaired and changed. -/
theorem eq_inject_or_repair {ws : WebhookSettings} {ns : String} {pod p : Pod}
    {warnings : List String}
    (h : (decide ws ns pod).run.Steps answers s (.ok (.patched p warnings)) s') :
    ∃ i : Injection, p = i.inject pod ∨ (i.repair pod).2 = true ∧ p = (i.repair pod).1 := by
  obtain ⟨found, config, endpoint, t, -, hact⟩ := (steps_decide fun _ => Verdict.noConfusion).mp h
  rw [act] at hact
  cases hmarked : pod.metadata.annotationMap.marksInjected with
  | false =>
    rw [hmarked, if_neg Bool.false_ne_true, steps_inject] at hact
    obtain ⟨workload, u, -, -, hv⟩ := hact
    exact ⟨_, .inl (Verdict.patched.inj hv).1⟩
  | true =>
    rw [hmarked, if_pos rfl, steps_repair] at hact
    rcases hact with ⟨-, hv, -⟩ | ⟨hchanged, -, hv⟩
    · exact Verdict.noConfusion hv
    · exact ⟨_, .inr ⟨(Bool.and_eq_true _ _ ▸ hchanged).2, (Verdict.patched.inj hv).1⟩⟩

/-- A patched Pod can be read back, has changed, and has kept what it had. -/
theorem grown_of_patched {ws : WebhookSettings} {ns : String} {pod p : Pod}
    {warnings : List String} (hfits : Pod.record.Fits pod)
    (h : (decide ws ns pod).run.Steps answers s (.ok (.patched p warnings)) s') :
    Pod.record.Fits p ∧ p ≠ pod ∧
      ∀ π, ¬ pod.InInstallEnv π → Kept pod.toJson p.toJson π := by
  obtain ⟨i, rfl | ⟨hchanged, rfl⟩⟩ := eq_inject_or_repair h
  · refine ⟨i.fits_inject hfits, fun heq => ?_, fun π _ => i.kept_inject pod π⟩
    have hinit := Injection.initContainers_inject i pod
    rw [heq, List.self_eq_append_right] at hinit
    exact List.cons_ne_nil _ _ hinit
  · exact ⟨i.fits_repair hfits, (Injection.snd_repair_iff i pod).mp hchanged,
      fun π hπ => i.kept_repair pod hπ⟩

end Admission

namespace Webhook

open Dialogue

/-- A Pod is considered where it is read from the object of the request. -/
theorem pod_of_consider {review : Review} {r : ReviewRequest} {o : ReviewedObject} {pod : Pod}
    (h : reviewIntake review = .consider review r pod) (hobject : r.object = some o) :
    o.pod = .ok pod := by
  rw [reviewIntake] at h
  cases hasked : review.request with
  | none =>
    rw [hasked] at h
    exact Intake.noConfusion h
  | some r' =>
    rw [hasked] at h
    dsimp only at h
    cases hobject' : r'.object with
    | none =>
      rw [hobject'] at h
      exact Intake.noConfusion h
    | some o' =>
      rw [hobject'] at h
      dsimp only at h
      cases hpod : o'.pod with
      | error e =>
        rw [hpod] at h
        exact Intake.noConfusion h
      | ok pod' =>
        rw [hpod] at h
        obtain ⟨-, rfl, rfl⟩ := Intake.consider.inj h
        rw [hobject] at hobject'
        rw [Option.some.inj hobject', hpod]

/-- **The patch is right for the object under review.**  Whatever the questions of an admission are
answered with, a patch in the answer is not empty and can be carried out on the object in the
request; the changed Pod is read from what comes out; and outside the variables of install containers
all that Pods do not know is still there. -/
theorem patch_reaches_object {σ : Type} {answers : (q : Query) → σ → q.Answer → σ → Prop} {s s' : σ}
    {w : Webhook} {review : Review} {r : ReviewRequest} {o : ReviewedObject} {raw : Json}
    {pod p : Pod} {warnings : List String}
    (hraw : raw.Canonical) (hobject : ReviewedObject.decoder.ofJson raw = .ok o)
    (hrequest : r.object = some o) (hintake : reviewIntake review = .consider review r pod)
    (hcomplete : pod.CompleteIn raw)
    (hpatched : (w.decision r pod).Steps answers s (.ok (.patched p warnings)) s') :
    pod.patchTo p ≠ [] ∧ ∃ raw', (pod.patchTo p).applyTo? raw = some raw' ∧ Pod.ReadFrom raw' p ∧
      (Pod.decoder.ofJson raw = .ok pod → Pod.decoder.ofJson raw' = .ok p) ∧
      ∀ π v, Foreign Pod.toJson π → ¬ pod.InInstallEnv π → raw.get? π = some v →
        raw'.get? π = some v := by
  have hread : Pod.ReadFrom raw pod := ⟨o, hobject, pod_of_consider hintake hrequest⟩
  obtain ⟨hfits, hne, hkept⟩ := Admission.grown_of_patched (hread.fits hraw) hpatched
  obtain ⟨raw', hpatchedRaw⟩ := Pod.exists_patchedRaw hraw hread hcomplete hfits
  exact ⟨hpatchedRaw.ne_nil hread hne, raw', hpatchedRaw.applied, hpatchedRaw.reads,
    hpatchedRaw.decodes, fun π v hforeign hπ => hpatchedRaw.keeps π v hforeign (hkept π hπ)⟩

/-- A container as the API server holds it, with a member that Pods do not know. -/
def heldContainer : Json := .obj
  [("image", .str "web:1"), ("name", .str "web"), ("securityContext", .obj []),
   ("tty", .bool true)]

/-- A web application as the API server holds it: with members that Pods do not know, and `null` for
what is not given. -/
def heldWeb : Json := .obj
  [("apiVersion", .str "v1"), ("kind", .str "Pod"),
   ("metadata", .obj [("annotations", .null), ("managedFields", .arr [])]),
   ("spec", .obj
     [("containers", .arr [heldContainer]),
      ("initContainers", .null), ("schedulerName", .str "default")])]

/-- The same as an object under review. -/
def reviewedWeb : ReviewedObject :=
  { type := some { apiVersion := "v1", kind := "Pod" }
    metadata := {}
    others := [("spec", .obj
      [("containers", .arr [heldContainer]),
       ("initContainers", .null), ("schedulerName", .str "default")])] }

theorem canonical_heldWeb : heldWeb.Canonical := by
  simp only [heldWeb, heldContainer, Json.Canonical, Json.CanonicalItems, Json.CanonicalMembers,
    Entries.Ascending]
  decide

theorem complete_heldWeb : Injection.webPod.CompleteIn heldWeb := by
  have hempty : ∀ ms, Json.Covers (.obj ms) (.obj []) := fun ms =>
    Json.covers_obj fun _ h => absurd h List.not_mem_nil
  have htext : ∀ a b, Json.Covers (.str a) (.str b) := fun a b =>
    Json.covers_of_isScalar Json.noConfusion rfl
  have hcontainer : Json.Covers heldContainer Injection.web.toJson := by
    refine Json.covers_obj (l := [_, _, _]) ?_
    simp only [List.forall_mem_cons]
    exact ⟨⟨_, rfl, Json.noConfusion, htext _ _⟩, ⟨_, rfl, Json.noConfusion, htext _ _⟩,
      ⟨_, rfl, Json.noConfusion, hempty _⟩, fun _ h => absurd h List.not_mem_nil⟩
  refine Pod.completeIn_iff.mpr ?_
  simp only [Record.CoveredBy, Pod.record, List.forall_mem_cons]
  refine ⟨?_, ?_, ?_, fun _ h => absurd h List.not_mem_nil⟩
  · rintro _ ⟨⟩
    exact ⟨_, rfl, Json.noConfusion, hempty _⟩
  · rintro _ ⟨⟩
    refine ⟨_, rfl, Json.noConfusion, Json.covers_obj (l := [_]) ?_⟩
    simp only [List.forall_mem_cons]
    exact ⟨⟨_, rfl, Json.noConfusion, Json.covers_arr (.cons hcontainer .nil)⟩,
      fun _ h => absurd h List.not_mem_nil⟩
  · rintro _ ⟨⟩

theorem foreign_managedFields :
    Foreign Pod.toJson [.key "metadata", .key "managedFields"] :=
  (Record.foreign_slot Pod.metadataSlot_mem).mpr (Record.foreign_of_not_mem (by decide) [])

theorem foreign_tty :
    Foreign Pod.toJson [.key "spec", .key "containers", .index 0, .key "tty"] := by
  have hcontainer : Foreign Container.record.encode [.key "tty"] :=
    Record.foreign_of_not_mem (by decide) []
  have hspec : Foreign PodSpec.record.encode [.key "containers", .index 0, .key "tty"] :=
    (@Record.foreign_slot _ _ (PodSpec.record.slots.get ⟨0, by decide⟩) (List.get_mem _ _) _).mpr
      (Format.foreign_index.mpr hcontainer)
  exact (@Record.foreign_slot _ _ (Pod.record.slots.get ⟨1, by decide⟩) (List.get_mem _ _) _).mpr
    hspec

/-- What is asked about the web application. -/
def webRequest : ReviewRequest :=
  { uid := "1", namespace_ := some "shop", object := some reviewedWeb }

/-- The review of the web application. -/
def webReview : Review :=
  { type := { apiVersion := "admission.k8s.io/v1", kind := "AdmissionReview" }
    request := some webRequest }

/-- The web application is patched where the API server holds it, and what Pods do not know stays. -/
theorem heldWeb_patched :
    ∃ raw', (Injection.webPod.patchTo Admission.shopPod).applyTo? heldWeb = some raw' ∧
      Pod.ReadFrom raw' Admission.shopPod ∧
      raw'.get? [.key "metadata", .key "managedFields"] = some (.arr []) ∧
      raw'.get? [.key "spec", .key "containers", .index 0, .key "tty"] = some (.bool true) := by
  have hobject : ReviewedObject.decoder.ofJson heldWeb = .ok reviewedWeb := rfl
  have hintake : reviewIntake webReview = .consider webReview webRequest Injection.webPod := rfl
  have hpatched : (({ settings := Admission.shopSettings } : Webhook).decision webRequest
      Injection.webPod).Steps (Fixed Admission.shopCluster.answer) []
        (.ok (.patched Admission.shopPod [])) _ :=
    steps_run_iff.mpr ⟨rfl, rfl⟩
  obtain ⟨-, raw', happlied, hreads, -, hkeeps⟩ :=
    patch_reaches_object canonical_heldWeb hobject rfl hintake complete_heldWeb hpatched
  refine ⟨raw', happlied, hreads, hkeeps _ _ foreign_managedFields ?_ rfl,
    hkeeps _ _ foreign_tty ?_ rfl⟩
  · rintro ⟨_, _, _, -, -, hπ⟩
    exact absurd hπ (by simp)
  · rintro ⟨_, _, _, -, -, hπ⟩
    exact absurd hπ (by simp)

end Webhook

end InjectionWebhook
