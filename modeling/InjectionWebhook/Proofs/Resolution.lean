/-
# References and what they resolve to

A cluster `Evolves` by admissions and by updates of anything but the supporting secrets of one
namespace. The volumes that a patch adds refer to secrets which the admission made sure of, so these
references resolve then and ever after.  The reference to the proxy key is another matter: the key
is written once, with the injection config secret, and the config may change afterwards.

`resolves_iff_of_patched` says exactly which references resolve: all but the one to the proxy key,
and that one if the config under which the secret was created had a proxy.  The invariant is
`Wellkept`; one admission keeps it because all that is written follows the bound config
(`wellkept_afterAdmission`).
-/
import InjectionWebhook.Proofs.References
import InjectionWebhook.Proofs.Serving
import InjectionWebhook.Proofs.Settling

namespace InjectionWebhook

/-! ## 1. References that resolve -/

/-- The secret that was created at a path. -/
def ApiServer.secret? (s : ApiServer) (path : String) : Option Secret :=
  match s.objects.get? path with
  | some (.secret secret) => some secret
  | _ => none

/-- What a reference names in a namespace is there. -/
def SecretRef.Resolves (s : ApiServer) (ns : String) : SecretRef → Prop
  | .whole name => s.objects.contains (secretPath ns name) = true
  | .key name entry => (s.secret? (secretPath ns name)).any (·.hasKey entry) = true

instance (s : ApiServer) (ns : String) : ∀ r : SecretRef, Decidable (r.Resolves s ns)
  | .whole name => inferInstanceAs (Decidable (s.objects.contains (secretPath ns name) = true))
  | .key name entry =>
    inferInstanceAs (Decidable ((s.secret? (secretPath ns name)).any (·.hasKey entry) = true))

/-! ## 2. Worlds -/

/-- An API server, and the config under which the injection config secret of a namespace was
created. -/
structure World where
  server : ApiServer
  origin : Option WorkloadConfig := none

namespace World

/-- The secret that is followed, of the namespace `home`. -/
def initPath (home : String) : String := secretPath home "beacon-injection-config"

/-- One admission.  If the secret is there only afterwards, it was created under the bound
config. -/
def afterAdmission (home : String) (ws : WebhookSettings) (operatorNs ns : String) (pod : Pod)
    (w : World) : World :=
  let after := (Admission.served ws operatorNs ns pod w.server).2
  { server := after
    origin :=
      if after.objects.contains (initPath home) && !w.server.objects.contains (initPath home) then
        (Admission.lookUp operatorNs ns w.server).1.toOption.map (·.2)
      else w.origin }

/-- A history: admissions of any Pods in any namespaces, and updates of anything but the two secrets
of the namespace `home`. -/
inductive Evolves (home : String) : World → World → Prop
  | refl (w : World) : Evolves home w w
  | admitted {w w' : World} (history : Evolves home w w') (ws : WebhookSettings)
      (operatorNs ns : String) (pod : Pod) :
      Evolves home w (w'.afterAdmission home ws operatorNs ns pod)
  | updated {w w' : World} (history : Evolves home w w') (server : ApiServer)
      (honest : server.Honest)
      (kept : ∀ name ∈ ["beacon-injection-config", "beacon-data-ingest-endpoint"],
        server.objects.get? (secretPath home name) =
          w'.server.objects.get? (secretPath home name)) :
      Evolves home w { w' with server }

/-- A world to start from: the injection config secret is not there yet. -/
structure Pristine (home : String) (w : World) : Prop where
  honest : w.server.Honest
  free : w.server.objects.get? (initPath home) = none

/-- If the secret is there, it has the proxy key exactly if the config it was created under has a
proxy. -/
structure Wellkept (home : String) (w : World) : Prop where
  honest : w.server.Honest
  origin : ∀ o, w.server.objects.get? (initPath home) = some o → ∃ config secret,
    w.origin = some config ∧ o = .secret secret ∧ secret.hasKey proxyKey = config.hasProxy

variable {home : String} {w w' : World}

theorem Pristine.wellkept (h : Pristine home w) : Wellkept home w where
  honest := h.honest
  origin := by
    intro o ho
    rw [h.free] at ho
    exact absurd ho (by simp)

/-- A config is the origin if the secret is there only after the admission. -/
theorem origin_of_created {ws : WebhookSettings} {operatorNs ns : String} {pod : Pod}
    (hbefore : w.server.objects.get? (initPath home) = none) {o : StoredObject}
    (hafter : (w.afterAdmission home ws operatorNs ns pod).server.objects.get? (initPath home) =
      some o) :
    (w.afterAdmission home ws operatorNs ns pod).origin =
      (Admission.lookUp operatorNs ns w.server).1.toOption.map (·.2) := by
  have hfree : w.server.objects.contains (initPath home) = false := by
    rw [Dict.contains, hbefore]
    rfl
  have hthere : (w.afterAdmission home ws operatorNs ns pod).server.objects.contains
      (initPath home) = true := by
    rw [Dict.contains, hafter]
    rfl
  refine if_pos ?_
  rw [hfree]
  exact (Bool.and_true _).trans hthere

/-- An admission leaves the origin of a secret that is there. -/
theorem origin_of_there {ws : WebhookSettings} {operatorNs ns : String} {pod : Pod}
    (h : w.server.objects.contains (initPath home) = true) :
    (w.afterAdmission home ws operatorNs ns pod).origin = w.origin := by
  refine if_neg ?_
  rw [h]
  simp

/-- **An admission keeps the world well kept.** -/
theorem wellkept_afterAdmission (h : Wellkept home w) (ws : WebhookSettings)
    (operatorNs ns : String) (pod : Pod) :
    Wellkept home (w.afterAdmission home ws operatorNs ns pod) where
  honest := Admission.keeps_served.honest h.honest
  origin := by
    intro o ho
    cases hbefore : w.server.objects.get? (initPath home) with
    | some o' =>
      -- The secret was there: it stays as it is, and so does its origin.
      have hkept : (w.afterAdmission home ws operatorNs ns pod).server.objects.get?
          (initPath home) = some o' := Admission.keeps_served.objects _ _ hbefore
      have hsame : o = o' := Option.some.inj (ho.symm.trans hkept)
      rw [origin_of_there (by rw [Dict.contains, hbefore]; rfl), hsame]
      exact h.origin o' hbefore
    | none =>
      rw [origin_of_created hbefore ho]
      cases hbound : (Admission.lookUp operatorNs ns w.server).1 with
      | error e =>
        have hobjects : (w.afterAdmission home ws operatorNs ns pod).server.objects =
            w.server.objects := Admission.objects_served_of_error hbound
        rw [hobjects, hbefore] at ho
        exact absurd ho (by simp)
      | ok b =>
        have hfollows : (w.afterAdmission home ws operatorNs ns pod).server.Follows b.2
            (initPath home) := Admission.follows_served hbound hbefore
        obtain ⟨secret, hsecret, hkey⟩ := hfollows o ho
        exact ⟨b.2, secret, rfl, hsecret, hkey⟩

/-- **A history keeps the world well kept.** -/
theorem Evolves.wellkept (h : Evolves home w w') (hw : Wellkept home w) : Wellkept home w' := by
  induction h with
  | refl => exact hw
  | admitted history ws operatorNs ns pod ih =>
    exact wellkept_afterAdmission ih ws operatorNs ns pod
  | updated history server honest kept ih =>
    refine ⟨honest, fun o ho => ih.origin o ?_⟩
    rw [← ho]
    exact (kept initSecretName List.mem_cons_self).symm

/-- **Secrets that are there stay there.** -/
theorem Evolves.contains (h : Evolves home w w') {name : String}
    (hname : name ∈ [initSecretName, endpointSecretName])
    (hthere : w.server.objects.contains (secretPath home name) = true) :
    w'.server.objects.contains (secretPath home name) = true := by
  induction h with
  | refl => exact hthere
  | admitted history ws operatorNs ns pod ih => exact Admission.keeps_served.contains ih
  | updated history server honest kept ih =>
    rw [Dict.contains, kept name hname]
    exact ih

/-- One object is replaced. -/
def put (path : String) (o : StoredObject) (w : World) : World :=
  { w with server := { w.server with objects := w.server.objects.insert path o } }

/-- Replacing an object elsewhere is an update. -/
theorem Evolves.put {path : String} {o : StoredObject} (hw : Pristine home w)
    (h : Evolves home w w')
    (hpath : ∀ name ∈ [initSecretName, endpointSecretName], secretPath home name ≠ path) :
    Evolves home w (w'.put path o) := by
  refine .updated h _ (h.wellkept hw.wellkept).honest fun name hname => ?_
  exact (Dict.get?_insert _ _ _ _).trans (if_neg (hpath name hname))

/-! ## 3. What a patch refers to -/

/-- In a well kept world the proxy key is there exactly if the config of the origin has a proxy. -/
theorem Wellkept.resolves_proxyRef (h : Wellkept home w)
    (hthere : w.server.objects.contains (initPath home) = true) :
    ∃ config, w.origin = some config ∧
      (proxyRef.Resolves w.server home ↔ config.hasProxy = true) := by
  obtain ⟨o, ho⟩ := Option.isSome_iff_exists.mp hthere
  obtain ⟨config, secret, horigin, rfl, hkey⟩ := h.origin o ho
  refine ⟨config, horigin, ?_⟩
  have hsecret : w.server.secret? (secretPath home initSecretName) = some secret := by
    rw [ApiServer.secret?]
    have hget : w.server.objects.get? (secretPath home initSecretName) = some (.secret secret) := ho
    rw [hget]
  change (w.server.secret? (secretPath home initSecretName)).any (·.hasKey proxyKey) = true ↔ _
  rw [hsecret, Option.any_some, hkey]

/-- **Which references resolve.**  At whatever point of whatever history an admission patches a Pod,
and at any time after it: a reference that the patch adds resolves exactly if it is not the one to
the proxy key, or the config under which the injection config secret was created gives a proxy. -/
theorem resolves_iff_of_patched {start w later : World} {ns : String} (hstart : Pristine ns start)
    (history : Evolves ns start w) {ws : WebhookSettings} {operatorNs : String} {pod p : Pod}
    {warnings : List String} (hnamed : Admission.Named operatorNs ns w.server)
    (hpatched : (Admission.served ws operatorNs ns pod w.server).1 = .ok (.patched p warnings))
    (hlater : Evolves ns (w.afterAdmission ns ws operatorNs ns pod) later) :
    ∃ origin, later.origin = some origin ∧ ∀ r, Adds pod p r →
      (r.Resolves later.server ns ↔ (r = proxyRef → origin.GivesProxy)) := by
  have hwellkept : Wellkept ns w := history.wellkept hstart.wellkept
  have hwellkeptLater : Wellkept ns later :=
    hlater.wellkept (wellkept_afterAdmission hwellkept ws operatorNs ns pod)
  obtain ⟨i, hp, hinit, hendpoint⟩ := Admission.contains_of_patched hnamed hwellkept.honest hpatched
  have hinitLater := hlater.contains List.mem_cons_self hinit
  obtain ⟨origin, horigin, hproxy⟩ := hwellkeptLater.resolves_proxyRef hinitLater
  refine ⟨origin, horigin, fun r hadds => ?_⟩
  have hcases : r = .whole initSecretName ∨
      r = .whole endpointSecretName ∧ i.attachment.enrichment.isSome = true ∨ r = proxyRef := by
    rcases hp with rfl | rfl
    · exact Injection.adds_inject hadds
    · exact .inr (.inr (Injection.adds_repair hadds))
  rcases hcases with rfl | ⟨rfl, henriched⟩ | rfl
  · exact iff_of_true hinitLater fun h => absurd h (by decide)
  · have hlast := hlater.contains (List.mem_cons_of_mem _ List.mem_cons_self) (hendpoint henriched)
    exact iff_of_true hlast fun h => absurd h (by decide)
  · rw [hproxy, WorkloadConfig.hasProxy_iff]
    exact ⟨fun h _ => h, fun h => h rfl⟩

/-! ## 4. Two histories -/

/-- Where the config of the small shop is kept. -/
def shopConfigPath : String := "/apis/beacon.dev/v1alpha1/workloadconfigs/shop-config"

/-- The config of the small shop, as it is kept, with an entry for the proxy. -/
def shopConfigDocument (proxy : Option Json) : Json := .record
  [("metadata", some (.record [("name", some (.str "shop-config"))])),
   ("spec", some (.record
     [("apiUrl", some (.str "https://beacon.example")),
      ("oneAgent", some (.record [("applicationMonitoring", some (.record []))])),
      ("proxy", proxy)]))]

/-- A proxy. -/
def shopProxy : Json := .record [("value", some (.str "http://proxy:3128"))]

/-- The small shop before any admission: its namespace, its config and the tokens. -/
def shopWorld (proxy : Option Json) : World :=
  { server :=
    { objects := .ofList
        [("/api/v1/namespaces/shop", .document (.record
            [("metadata", some (.record
              [("labels", some (.record [(Admission.bindingLabel, some (.str "shop-config"))])),
               ("name", some (.str "shop"))]))])),
         (shopConfigPath, .document (shopConfigDocument proxy)),
         (secretPath "beacon" "shop-config",
          .secret { data := some (.ofList
            [("dataIngestToken", "t".toUTF8), ("paasToken", "p".toUTF8)]) })] } }

/-- What an admission of the web application there leaves. -/
def afterShopAdmission (w : World) : World :=
  w.afterAdmission "shop" Admission.shopSettings "beacon" "shop" Injection.webPod

/-- The web application is patched there, and given the reference to the proxy key. -/
def addsProxyRef (w : World) : Bool :=
  match (Admission.served Admission.shopSettings "beacon" "shop" Injection.webPod w.server).1 with
  | .ok (.patched p _) => decide (Adds Injection.webPod p proxyRef)
  | _ => false

theorem patched_of_addsProxyRef {w : World} (h : addsProxyRef w = true) :
    ∃ p warnings, (Admission.served Admission.shopSettings "beacon" "shop" Injection.webPod
        w.server).1 = .ok (.patched p warnings) ∧ Adds Injection.webPod p proxyRef := by
  unfold addsProxyRef at h
  split at h
  · rename_i p warnings hverdict
    exact ⟨p, warnings, hverdict, of_decide_eq_true h⟩
  · exact absurd h Bool.false_ne_true

theorem honest_shopWorld (proxy : Option Json) : (shopWorld proxy).server.Honest :=
  fun _ _ h => absurd h (by simp [shopWorld, Dict.get?, Dict.empty])

/-- Where the shop has a proxy from the start, all references resolve. -/
theorem resolves_in_proxied_shop :
    Pristine "shop" (shopWorld (some shopProxy)) ∧
      Admission.Named "beacon" "shop" (shopWorld (some shopProxy)).server ∧
      ∃ p warnings, (Admission.served Admission.shopSettings "beacon" "shop" Injection.webPod
          (shopWorld (some shopProxy)).server).1 = .ok (.patched p warnings) ∧
        Adds Injection.webPod p proxyRef ∧
        ∀ r, Adds Injection.webPod p r →
          r.Resolves (afterShopAdmission (shopWorld (some shopProxy))).server "shop" := by
  have hstart : Pristine "shop" (shopWorld (some shopProxy)) :=
    ⟨honest_shopWorld _, by decide +kernel⟩
  obtain ⟨hfound, hpatch, hproxy⟩ :
      (∀ b ∈ (Admission.lookUp "beacon" "shop" (shopWorld (some shopProxy)).server).1.toOption,
        b.1.metadata.name = some "shop") ∧
      addsProxyRef (shopWorld (some shopProxy)) = true ∧
      (afterShopAdmission (shopWorld (some shopProxy))).origin.any (·.hasProxy) = true := by
    decide +kernel
  have hnamed : Admission.Named "beacon" "shop" (shopWorld (some shopProxy)).server :=
    ⟨by decide, hfound⟩
  obtain ⟨p, warnings, hpatched, hadds⟩ := patched_of_addsProxyRef hpatch
  obtain ⟨origin, horigin, hresolves⟩ :=
    resolves_iff_of_patched hstart (.refl _) hnamed hpatched (.refl _)
  have horiginProxy : origin.hasProxy = true := by
    rw [afterShopAdmission, horigin] at hproxy
    exact hproxy
  exact ⟨hstart, hnamed, p, warnings, hpatched, hadds,
    fun r hr => (hresolves r hr).mpr fun _ => WorkloadConfig.hasProxy_iff.mp horiginProxy⟩

/-- The shop is given a proxy after the first admission. -/
def reconfigured : World :=
  (afterShopAdmission (shopWorld none)).put shopConfigPath
    (.document (shopConfigDocument (some shopProxy)))

/-- **References do not always resolve.**  Where the shop is given a proxy after the first
admission, the next patch refers to a key that the injection config secret does not have. -/
theorem dangles_in_reconfigured_shop :
    Pristine "shop" (shopWorld none) ∧ Evolves "shop" (shopWorld none) reconfigured ∧
      Admission.Named "beacon" "shop" reconfigured.server ∧
      ∃ p warnings, (Admission.served Admission.shopSettings "beacon" "shop" Injection.webPod
          reconfigured.server).1 = .ok (.patched p warnings) ∧
        Adds Injection.webPod p proxyRef ∧
        ¬ proxyRef.Resolves (afterShopAdmission reconfigured).server "shop" := by
  have hstart : Pristine "shop" (shopWorld none) := ⟨honest_shopWorld none, by decide +kernel⟩
  have hhistory : Evolves "shop" (shopWorld none) reconfigured :=
    Evolves.put hstart
      (.admitted (.refl _) Admission.shopSettings "beacon" "shop" Injection.webPod)
      (by decide +kernel)
  obtain ⟨hfound, hpatch, hdangles⟩ :
      (∀ b ∈ (Admission.lookUp "beacon" "shop" reconfigured.server).1.toOption,
        b.1.metadata.name = some "shop") ∧
      addsProxyRef reconfigured = true ∧
      ¬ proxyRef.Resolves (afterShopAdmission reconfigured).server "shop" := by
    decide +kernel
  obtain ⟨p, warnings, hpatched, hadds⟩ := patched_of_addsProxyRef hpatch
  exact ⟨hstart, hhistory, ⟨by decide, hfound⟩, p, warnings, hpatched, hadds, hdangles⟩

end World
end InjectionWebhook
