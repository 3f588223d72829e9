/-
# The two copies of the endpoint credentials

An enriched container is told the metrics endpoint twice: by its variables, and by the endpoint file
that it mounts from a secret of its namespace.  The variables are written anew by every admission,
from the config and the tokens as they are then.  The secret is written once, when it is first
missing, and nothing ever brings it up to date.

So the copies need not agree.  `copies_agree_iff` says when they do, for every state of the API
server: exactly if the secret was made by that call, or held the same before.
`copies_disagree_in_moved_shop` shows a shop where they do not.

* `get?_of_ensured`: what is stored after a call for the endpoint secret;
* `endpointIn_newVars`: the variables of an enriched container say what the call answered.
-/
import InjectionWebhook.Proofs.Attachment
import InjectionWebhook.Proofs.EndpointFile
import InjectionWebhook.Proofs.Ensuring
import InjectionWebhook.Proofs.Resolution

namespace InjectionWebhook

open Dialogue

/-! ## 1. The file -/

/-- The endpoint file with some fields: a line for each. -/
def Provision.file (fields : EndpointFields) : ByteArray :=
  (String.join (fields.entries.map fun e => e.1 ++ "=" ++ e.2 ++ "\n")).toUTF8

theorem Provision.file_eq (fields : EndpointFields) : file fields = (properties fields).toUTF8 := by
  rw [file, properties, String.join, List.foldl_map]

/-- The endpoint file of a namespace: what the endpoint secret that is stored there holds. -/
def ApiServer.endpointFile? (s : ApiServer) (ns : String) : Option ByteArray :=
  (s.objects.get? (secretPath ns "beacon-data-ingest-endpoint")).bind fun o =>
    o.asSecret.toOption.bind fun secret =>
      (secret.data.getD .empty).get? "endpoint.properties"

/-- An endpoint secret that was made holds the file of its fields. -/
theorem endpointFile?_of_get? {s : ApiServer} {ns : String} {fields : EndpointFields}
    (h : s.objects.get? (secretPath ns endpointSecretName) =
      some (.secret (Provision.endpointSecret ns fields))) :
    s.endpointFile? ns = some (Provision.file fields) := by
  change (s.objects.get? (secretPath ns endpointSecretName)).bind _ = _
  rw [h, Provision.file_eq]
  rfl

theorem Provision.nameOrEmpty_endpointSecret (ns : String) (fields : EndpointFields) :
    (endpointSecret ns fields).metadata.nameOrEmpty = endpointSecretName := rfl

namespace Client

variable {operatorNs ns : String} {config : WorkloadConfig} {s s' : ApiServer}
variable {fields : EndpointFields}

/-- Reading leaves the objects alone. -/
theorem objects_of_reads {α : Type} {d : RequestDialogue α} (hd : d.Asks Reads) {a : α}
    (h : d.Steps (Stateful ApiServer.answer) s a s') : s'.objects = s.objects := by
  rw [← objects_runState hd s]
  exact congrArg (fun p : α × ApiServer => p.2.objects) (steps_runState_iff.mp h)

/-! ## 2. What is stored after a call -/

/-- **What was stored stays, and where nothing was there is the secret of the call.** -/
theorem get?_of_ensured (hns : isPathText ns = true) (hs : s.Honest)
    (h : (ensureEndpointSecret operatorNs config ns).run.Steps (Stateful ApiServer.answer) s
      (.ok fields) s') :
    s'.objects.get? (secretPath ns endpointSecretName) =
      some ((s.objects.get? (secretPath ns endpointSecretName)).getD
        (.secret (Provision.endpointSecret ns fields))) := by
  have hthere : s'.objects.contains (secretPath ns endpointSecretName) = true :=
    contains_of_ensureEndpointSecret hns hs h
  obtain ⟨tokens, t, found, u, htokens, -, hfound, hend⟩ := steps_ensureEndpointSecret h
  have hget : ∀ path, Reads (.get path) := fun _ => trivial
  have hlook : (secretIfPresent ns endpointSecretName).Asks Reads := by
    rw [secretIfPresent]
    exact asks_getIfPresent hget _ _ _ _
  have hread : u.objects = s.objects :=
    (objects_of_reads hlook hfound).trans
      (objects_of_reads (asks_operatorSecret hget config.tokensSecret) htokens)
  have hkept : ∀ o, s'.objects = s.objects →
      s'.objects.get? (secretPath ns endpointSecretName) = some o →
      s'.objects.get? (secretPath ns endpointSecretName) =
        some ((s.objects.get? (secretPath ns endpointSecretName)).getD
          (.secret (Provision.endpointSecret ns fields))) := by
    intro o hsame ho
    rw [← hsame, ho, Option.getD_some]
  obtain ⟨o, ho⟩ := Option.isSome_iff_exists.mp hthere
  rcases hend with ⟨-, rfl⟩ | ⟨created, hcreated⟩
  · exact hkept o hread ho
  · rw [createIfAbsent_eq hns, steps_ask] at hcreated
    obtain ⟨r, v, hr, hdone⟩ := hcreated
    obtain ⟨-, rfl⟩ := steps_done.mp hdone
    have hafter : (ApiServer.answer (.create (ApiResource.secrets.collection (some ns))
        (Provision.endpointSecret ns fields)) u).2 = s' := (congrArg Prod.snd hr).symm
    rcases ApiServer.objects_create u (ApiResource.secrets.collection (some ns))
        (Provision.endpointSecret ns fields) with hsame | ⟨hfree, hinsert⟩
    · rw [hafter, hread] at hsame
      exact hkept o hsame ho
    · have hpath : ApiServer.pathOf (ApiResource.secrets.collection (some ns))
          (Provision.endpointSecret ns fields) = secretPath ns endpointSecretName := by
        rw [ApiServer.pathOf, Provision.nameOrEmpty_endpointSecret, secretPath]
      have hnone : s.objects.get? (secretPath ns endpointSecretName) = none := by
        rw [hpath, hread, Dict.contains] at hfree
        exact Option.not_isSome_iff_eq_none.mp (by simp [hfree])
      rw [hafter, hpath] at hinsert
      rw [hinsert, Dict.get?_insert, if_pos rfl, hnone, Option.getD_none]

/-- **The file after a call** is the one of the answered fields exactly if nothing was stored before
or the file was that one already. -/
theorem endpointFile?_iff_of_ensured (hns : isPathText ns = true) (hs : s.Honest)
    (h : (ensureEndpointSecret operatorNs config ns).run.Steps (Stateful ApiServer.answer) s
      (.ok fields) s') :
    s'.endpointFile? ns = some (Provision.file fields) ↔
      s.objects.contains (secretPath ns endpointSecretName) = false ∨
        s.endpointFile? ns = some (Provision.file fields) := by
  have hstored := get?_of_ensured hns hs h
  cases hbefore : s.objects.get? (secretPath ns endpointSecretName) with
  | none =>
    rw [hbefore, Option.getD_none] at hstored
    rw [Dict.contains, hbefore]
    exact ⟨fun _ => .inl rfl, fun _ => endpointFile?_of_get? hstored⟩
  | some o =>
    rw [hbefore, Option.getD_some] at hstored
    have hsame : s'.endpointFile? ns = s.endpointFile? ns := by
      change (s'.objects.get? (secretPath ns endpointSecretName)).bind _ =
        (s.objects.get? (secretPath ns endpointSecretName)).bind _
      rw [hstored, hbefore]
    rw [hsame, Dict.contains, hbefore]
    exact ⟨.inr, fun h => h.resolve_left (by simp)⟩

end Client

/-! ## 3. The variables -/

/-- The endpoint that variables tell about. -/
def endpointIn (vars : List EnvVar) : EndpointFields :=
  .ofList (vars.filterMap fun v =>
    if v.name = "BEACON_METRICS_INGEST_URL" ∨ v.name = "BEACON_METRICS_INGEST_API_TOKEN" then
      v.value.map (v.name, ·)
    else none)

/-- Fields are URL and token. -/
def Provision.IsEndpoint (fields : EndpointFields) : Prop :=
  ∃ url token, fields = .ofList [(ingestUrlKey, url), (ingestTokenKey, token)]

theorem Provision.isEndpoint_of_endpointFields {config : WorkloadConfig} {tokens : Dict String}
    {fields : EndpointFields} (h : endpointFields config tokens = .ok fields) :
    IsEndpoint fields := by
  obtain ⟨-, token, -, hfields⟩ := endpointFields_eq_ok_iff.mp h
  exact ⟨_, token, hfields⟩

/-- **The variables of an enriched container tell about its endpoint**, and the other variables that
it is given do not. -/
theorem endpointIn_newVars {a : Attachment} {e : EnrichmentAttachment} (b : Container)
    (h : a.enrichment = some e) (hfields : Provision.IsEndpoint e.fields) :
    endpointIn (a.newVars b) = e.fields := by
  obtain ⟨url, token, hfields⟩ := hfields
  let told (v : EnvVar) : Option (String × String) :=
    if v.name = ingestUrlKey ∨ v.name = ingestTokenKey then v.value.map (v.name, ·) else none
  have hmetadata : (a.metadataVars b).filterMap told = [] := by
    rw [Attachment.metadataVars]
    split
    · rfl
    · rfl
  have hagent : (a.agent.elim [] AgentAttachment.vars).filterMap told = [] := by
    cases a.agent with
    | none => rfl
    | some agent =>
      rw [Option.elim_some, AgentAttachment.vars]
      cases agent.config.hasProxy <;> cases agent.config.networkZone? <;> rfl
  have henrichment : e.vars.filterMap told =
      [(ingestUrlKey, e.fields.textOr ingestUrlKey ""),
        (ingestTokenKey, e.fields.textOr ingestTokenKey "")] := rfl
  have hurl : e.fields.textOr ingestUrlKey "" = url := by
    simp [hfields, Dict.textOr, Dict.ofList, ingestUrlKey, ingestTokenKey]
  have htoken : e.fields.textOr ingestTokenKey "" = token := by
    simp [hfields, Dict.textOr, Dict.ofList, ingestUrlKey, ingestTokenKey]
  change Dict.ofList ((a.newVars b).filterMap told) = e.fields
  rw [Attachment.newVars, Attachment.capabilityVars, h, List.filterMap_append,
    List.filterMap_append, hmetadata, hagent, Option.elim_some, henrichment, hurl, htoken, hfields]
  rfl

/-! ## 4. When the copies agree -/

/-- The endpoint file of a namespace says what variables tell about the endpoint. -/
def CopiesAgree (s : ApiServer) (ns : String) (vars : List EnvVar) : Prop :=
  s.endpointFile? ns = some (Provision.file (endpointIn vars))

/-- **When the two copies agree.**  For every API server, config and namespace: after a call for the
endpoint secret was answered with some fields, the endpoint file of the namespace holds these fields
exactly if nothing was stored in its place before, or the same file was.  And whatever container is
given enrichment with these fields, its variables tell the fields, so that they agree with the file
under that condition only. -/
theorem copies_agree_iff {operatorNs ns : String} {config : WorkloadConfig} {s s' : ApiServer}
    {fields : EndpointFields} (hns : isPathText ns = true) (hs : s.Honest)
    (h : (Client.ensureEndpointSecret operatorNs config ns).run.Steps (Stateful ApiServer.answer) s
      (.ok fields) s') :
    (s'.endpointFile? ns = some (Provision.file fields) ↔
        s.objects.contains (secretPath ns "beacon-data-ingest-endpoint") = false ∨
          s.endpointFile? ns = some (Provision.file fields)) ∧
      ∀ (a : Attachment) (e : EnrichmentAttachment) (b : Container),
        a.enrichment = some e → e.fields = fields →
          ∃ vars, (a.attach b).envVars = b.envVars ++ vars ∧ endpointIn vars = fields ∧
            (CopiesAgree s' ns vars ↔
              s.objects.contains (secretPath ns "beacon-data-ingest-endpoint") = false ∨
                s.endpointFile? ns = some (Provision.file fields)) := by
  have hfile := Client.endpointFile?_iff_of_ensured hns hs h
  refine ⟨hfile, fun a e b henrichment he => ?_⟩
  obtain ⟨tokens, -, -, -, -, hfields, -, -⟩ := Client.steps_ensureEndpointSecret h
  subst he
  have htold := endpointIn_newVars b henrichment (Provision.isEndpoint_of_endpointFields hfields)
  refine ⟨a.newVars b, Attachment.envVars_attach a b, htold, ?_⟩
  rw [CopiesAgree, htold]
  exact hfile

/-- A call for the endpoint secret of the shop. -/
def ensureInShop (config : WorkloadConfig) (s : ApiServer) :
    Except Failure EndpointFields × ApiServer :=
  (Client.ensureEndpointSecret "beacon" config "shop").run.runState ApiServer.answer s

/-- The shop after the first call. -/
def suppliedShop : ApiServer := (ensureInShop Admission.shopConfig (World.shopWorld none).server).2

/-- The fields of the shop under an API address. -/
def shopFields (apiUrl : String) : EndpointFields :=
  .ofList
    [ ("BEACON_METRICS_INGEST_URL", apiUrl ++ "/v2/metrics/ingest"),
      ("BEACON_METRICS_INGEST_API_TOKEN", "t") ]

/-- The first call answers the fields of the shop. -/
theorem steps_ensureInShop :
    (Client.ensureEndpointSecret "beacon" Admission.shopConfig "shop").run.Steps
      (Stateful ApiServer.answer) (World.shopWorld none).server
      (.ok (shopFields "https://beacon.example")) suppliedShop := by
  have hcall : ensureInShop Admission.shopConfig (World.shopWorld none).server =
      (.ok (shopFields "https://beacon.example"), suppliedShop) :=
    Prod.ext (toOption_eq_some_iff.mp (by decide +kernel)) rfl
  exact steps_runState_iff.mpr hcall.symm

/-- After the first call the file says what was answered. -/
theorem copies_agree_in_supplied_shop :
    isPathText "shop" = true ∧ (World.shopWorld none).server.Honest ∧
      ensureInShop Admission.shopConfig (World.shopWorld none).server =
        (.ok (shopFields "https://beacon.example"), suppliedShop) ∧
      suppliedShop.endpointFile? "shop" =
        some (Provision.file (shopFields "https://beacon.example")) := by
  have hns : isPathText "shop" = true := by decide
  have hfile := (copies_agree_iff hns (World.honest_shopWorld none) steps_ensureInShop).1
  exact ⟨hns, World.honest_shopWorld none, (steps_runState_iff.mp steps_ensureInShop).symm,
    hfile.mpr (.inl (by decide +kernel))⟩

/-- The config of the shop, with another API address. -/
def movedConfig : WorkloadConfig :=
  { Admission.shopConfig with
    spec := { Admission.shopConfig.spec with apiUrl := "https://moved.example" } }

/-- **The copies do not always agree.**  The config of the shop is given another API address after
the endpoint secret was made: the next call answers the new address, and the file keeps the old
one. -/
theorem copies_disagree_in_moved_shop :
    (ensureInShop movedConfig suppliedShop).1 = .ok (shopFields "https://moved.example") ∧
      (ensureInShop movedConfig suppliedShop).2.endpointFile? "shop" =
        some (Provision.file (shopFields "https://beacon.example")) ∧
      Provision.file (shopFields "https://beacon.example") ≠
        Provision.file (shopFields "https://moved.example") := by
  obtain ⟨hfields, hfile⟩ :
      (ensureInShop movedConfig suppliedShop).1.toOption =
          some (shopFields "https://moved.example") ∧
        (ensureInShop movedConfig suppliedShop).2.endpointFile? "shop" =
          some (Provision.file (shopFields "https://beacon.example")) := by
    decide +kernel
  exact ⟨toOption_eq_some_iff.mp hfields, hfile, by decide +kernel⟩

end InjectionWebhook
