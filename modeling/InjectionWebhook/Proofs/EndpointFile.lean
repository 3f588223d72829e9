/-
# The endpoint file

The endpoint file, which the endpoint secret holds (`Provision.endpointFile?`), has a line for each
field, the key before the first equals sign and the value behind it.  Nothing in a value is escaped,
and a value is only ever checked for being empty.

So the file says what the fields say as long as no value breaks a line
(`Provision.readProperties_properties_iff`).  For the fields of a config and its tokens this is a
matter of the API address and the token (`Provision.reads_back_iff`); a token with a line feed in it
adds a property of its own (`Provision.brokenToken_adds_property`).
-/
import InjectionWebhook.Proofs.Provision
import InjectionWebhook.Proofs.Reading

namespace InjectionWebhook
namespace Provision

/-! ## 1. Lines -/

/-- The text stays on one line. -/
def IsLine (s : String) : Prop := '\n' ∉ s.toList

instance (s : String) : Decidable (IsLine s) := inferInstanceAs (Decidable ('\n' ∉ s.toList))

/-- The line of a field. -/
def line (e : String × String) : List Char := e.1.toList ++ '=' :: e.2.toList

/-- The field on a line, if there is an equals sign. -/
def field? (line : List Char) : Option (String × String) :=
  if '=' ∈ line then
    some (String.ofList (line.takeWhile (· ≠ '=')),
      String.ofList ((line.dropWhile (· ≠ '=')).drop 1))
  else none

theorem readProperties_eq (text : String) :
    readProperties text = .ofList ((linesOf text.toList).filterMap field?) := rfl

/-- A line comes apart at its first equals sign. -/
theorem field?_line {e : String × String} (hkey : '=' ∉ e.1.toList) : field? (line e) = some e := by
  have hbefore : ∀ c ∈ e.1.toList, (c ≠ '=' : Bool) = true := by
    intro c hc
    refine decide_eq_true ?_
    rintro rfl
    exact hkey hc
  have htake : (line e).takeWhile (· ≠ '=') = e.1.toList := by
    rw [line, List.takeWhile_append_of_pos hbefore]
    simp
  have hdrop : (line e).dropWhile (· ≠ '=') = '=' :: e.2.toList := by
    rw [line, List.dropWhile_append_of_pos hbefore]
    simp
  have hsign : '=' ∈ line e := List.mem_append_right _ List.mem_cons_self
  rw [field?, if_pos hsign, htake, hdrop, List.drop_one, List.tail_cons, String.ofList_toList,
    String.ofList_toList]

/-- The first line of a text ends at its line feed. -/
theorem linesOf_append {cs : List Char} (h : '\n' ∉ cs) (rest : List Char) :
    linesOf (cs ++ '\n' :: rest) = cs :: linesOf rest := by
  induction cs with
  | nil => rw [List.nil_append, linesOf, if_pos rfl]
  | cons c cs ih =>
    have hc : c ≠ '\n' := fun hc => h (hc ▸ List.mem_cons_self)
    rw [List.cons_append, linesOf, if_neg hc, ih fun hcs => h (List.mem_cons_of_mem _ hcs)]

/-- No line has a line feed in it. -/
theorem not_mem_of_mem_linesOf {cs l : List Char} (h : l ∈ linesOf cs) : '\n' ∉ l := by
  induction cs generalizing l with
  | nil => exact absurd h List.not_mem_nil
  | cons c cs ih =>
    rw [linesOf] at h
    split at h
    · rcases List.mem_cons.mp h with rfl | h
      · exact List.not_mem_nil
      · exact ih h
    · rename_i hc
      cases hlines : linesOf cs with
      | nil =>
        rw [hlines] at h
        rw [List.mem_singleton.mp h]
        simpa using Ne.symm hc
      | cons first more =>
        rw [hlines] at h ih
        rcases List.mem_cons.mp h with rfl | h
        · have hfirst := ih List.mem_cons_self
          simpa [hfirst] using Ne.symm hc
        · exact ih (List.mem_cons_of_mem _ h)

/-! ## 2. Files -/

theorem toList_properties (fields : EndpointFields) :
    (properties fields).toList = fields.entries.flatMap fun e => line e ++ ['\n'] := by
  have hfold : ∀ (entries : List (String × String)) (text : String),
      (entries.foldl (fun text e => text ++ (e.1 ++ "=" ++ e.2 ++ "\n")) text).toList =
        text.toList ++ entries.flatMap fun e => line e ++ ['\n'] := by
    intro entries
    induction entries with
    | nil => simp
    | cons e entries ih =>
      intro text
      rw [List.foldl_cons, ih, List.flatMap_cons]
      simp [line, String.toList_append]
  rw [properties, hfold, String.toList_empty, List.nil_append]

/-- Lines that are ended one after the other are the lines of the text. -/
theorem linesOf_flatMap {lines : List (List Char)} (h : ∀ l ∈ lines, '\n' ∉ l) :
    linesOf (lines.flatMap (· ++ ['\n'])) = lines := by
  induction lines with
  | nil => rfl
  | cons l lines ih =>
    rw [List.flatMap_cons, List.append_assoc, List.singleton_append,
      linesOf_append (h l List.mem_cons_self), ih fun l' hl' => h l' (List.mem_cons_of_mem _ hl')]

/-- What is read from a file stays on one line each. -/
theorem isLine_of_mem_readProperties {text : String} {e : String × String}
    (h : e ∈ (readProperties text).entries) : IsLine e.2 := by
  rw [readProperties_eq] at h
  rcases Dict.mem_entries_extend h with h | h
  · exact absurd h List.not_mem_nil
  · obtain ⟨l, hl, hfield⟩ := List.mem_filterMap.mp h
    rw [field?] at hfield
    split at hfield
    · rw [← Option.some.inj hfield, IsLine, String.toList_ofList]
      intro hfeed
      exact not_mem_of_mem_linesOf hl
        ((List.dropWhile_suffix _).subset (List.mem_of_mem_drop hfeed))
    · exact absurd hfield (by simp)

/-- A key can stand before an equals sign. -/
def IsKey (s : String) : Prop := '=' ∉ s.toList ∧ IsLine s

/-- **A file reads back exactly if every value stays on one line.** -/
theorem readProperties_properties_iff {fields : EndpointFields}
    (hkeys : ∀ e ∈ fields.entries, IsKey e.1) :
    readProperties (properties fields) = fields ↔ ∀ e ∈ fields.entries, IsLine e.2 := by
  constructor
  · intro h e he
    rw [← h] at he
    exact isLine_of_mem_readProperties he
  · intro hvalues
    have hlines : ∀ l ∈ fields.entries.map line, '\n' ∉ l := by
      intro l hl
      obtain ⟨e, he, rfl⟩ := List.mem_map.mp hl
      have hkey : '\n' ∉ e.1.toList := (hkeys e he).2
      have hvalue : '\n' ∉ e.2.toList := hvalues e he
      simp [line, hkey, hvalue]
    have hread : (fields.entries.map line).filterMap field? = fields.entries := by
      have hfield : ∀ e ∈ fields.entries, (field? ∘ line) e = some e :=
        fun e he => field?_line (hkeys e he).1
      rw [List.filterMap_map, List.filterMap_congr hfield, List.filterMap_some]
    have hfile : (properties fields).toList = (fields.entries.map line).flatMap (· ++ ['\n']) := by
      rw [toList_properties, List.flatMap_map]
    rw [readProperties_eq, hfile, linesOf_flatMap hlines, hread]
    exact Dict.ext_entries (Dict.entries_ofList fields.ascending)

/-! ## 3. The fields of a config -/

/-- **When there are fields, and which.** -/
theorem endpointFields_eq_ok_iff {config : WorkloadConfig} {tokens : Dict String}
    {fields : EndpointFields} :
    endpointFields config tokens = .ok fields ↔
      (trimSlashes config.spec.apiUrl).isEmpty = false ∧
        ∃ token, nonEmpty? (tokens.get? ingestTokenSecretKey) = some token ∧
          fields = .ofList
            [ (ingestUrlKey, trimSlashes config.spec.apiUrl ++ "/v2/metrics/ingest"),
              (ingestTokenKey, token) ] := by
  unfold endpointFields
  dsimp only
  cases (trimSlashes config.spec.apiUrl).isEmpty with
  | true =>
    constructor
    · intro h
      have hfailed : (Except.error (.invalid "spec.apiUrl" "must not be empty") :
          Except Failure EndpointFields) = .ok fields := h
      exact absurd hfailed (by simp)
    · rintro ⟨h, -⟩
      exact absurd h (by simp)
  | false =>
    rw [if_neg Bool.false_ne_true]
    constructor
    · intro h
      obtain ⟨token, htoken, h⟩ := bind_eq_ok.mp h
      exact ⟨rfl, token, required_eq_ok_iff.mp htoken, (Except.ok.inj h).symm⟩
    · rintro ⟨-, token, htoken, rfl⟩
      exact bind_eq_ok.mpr ⟨token, required_eq_ok_iff.mpr htoken, rfl⟩

/-- The entries of the fields, in key order. -/
theorem entries_fields (url token : String) :
    (Dict.ofList [(ingestUrlKey, url), (ingestTokenKey, token)]).entries =
      [(ingestTokenKey, token), (ingestUrlKey, url)] := by
  have hlt : ingestTokenKey < ingestUrlKey := by decide
  simp only [Dict.ofList, Dict.extend_cons, Dict.extend_nil, Dict.insert, Dict.empty,
    Entries.insert, if_pos hlt]

/-- Only slashes are trimmed. -/
theorem mem_trimSlashes_iff {c : Char} (hc : c ≠ '/') (s : String) :
    c ∈ (trimSlashes s).toList ↔ c ∈ s.toList := by
  rw [trimSlashes, String.toList_ofList, List.mem_reverse]
  constructor
  · intro h
    exact List.mem_reverse.mp ((List.dropWhile_suffix _).subset h)
  · intro h
    have hparts : s.toList.reverse = s.toList.reverse.takeWhile (· = '/') ++
        s.toList.reverse.dropWhile (· = '/') :=
      List.takeWhile_append_dropWhile.symm
    rw [← List.mem_reverse, hparts, List.mem_append] at h
    refine h.resolve_left fun hslash => hc ?_
    exact of_decide_eq_true (List.all_eq_true.mp List.all_takeWhile c hslash)

theorem isLine_url_iff (apiUrl : String) :
    IsLine (trimSlashes apiUrl ++ "/v2/metrics/ingest") ↔ IsLine apiUrl := by
  have htail : '\n' ∉ "/v2/metrics/ingest".toList := by decide
  rw [IsLine, IsLine, String.toList_append, List.mem_append, mem_trimSlashes_iff (by decide)]
  simp only [htail, or_false]

theorem isKey_ingestKeys : IsKey ingestTokenKey ∧ IsKey ingestUrlKey := by
  constructor <;> exact ⟨by decide, by decide⟩

/-- A file of fields has a line feed for each field, and those of the values. -/
theorem count_newline_properties (url token : String) :
    (properties (.ofList [(ingestUrlKey, url), (ingestTokenKey, token)])).toList.count '\n' =
      2 + token.toList.count '\n' + url.toList.count '\n' := by
  have htoken : ingestTokenKey.toList.count '\n' = 0 := by decide
  have hurl : ingestUrlKey.toList.count '\n' = 0 := by decide
  rw [toList_properties, entries_fields]
  simp only [List.flatMap_cons, List.flatMap_nil, line, List.count_append, List.count_cons,
    List.count_nil, htoken, hurl, List.append_nil]
  have hsign : ('=' == '\n') = false := by decide
  simp only [hsign, Bool.false_eq_true, if_false, beq_self_eq_true, if_true]
  omega

/-- **When what is written of fields can be read back.** -/
theorem readProperties_fields_iff (url token : String) :
    readProperties (properties (.ofList [(ingestUrlKey, url), (ingestTokenKey, token)])) =
        .ofList [(ingestUrlKey, url), (ingestTokenKey, token)] ↔ IsLine token ∧ IsLine url := by
  rw [readProperties_properties_iff]
  · simp only [entries_fields, List.forall_mem_cons, List.not_mem_nil, false_implies,
      implies_true, and_true]
  · simp only [entries_fields, List.forall_mem_cons, List.not_mem_nil, false_implies,
      implies_true, and_true]
    exact isKey_ingestKeys

/-- The endpoint file that a secret holds. -/
def endpointFile? (secret : Secret) : Option String := secret.texts.get? "endpoint.properties"

theorem endpointFile?_endpointSecret (ns : String) (fields : EndpointFields) :
    endpointFile? (endpointSecret ns fields) = some (properties fields) := by
  have hdata : ((endpointSecret ns fields).data.getD .empty).get? propertiesKey =
      some (properties fields).toUTF8 := by
    simp [endpointSecret, Dict.ofList]
  exact Secret.get?_texts_iff.mpr (.inr ⟨rfl, hdata⟩)

/-- **When an endpoint file can be read back.**  For every config and tokens that make fields, the
endpoint secret of these fields holds a file, and the file gives back the fields exactly if neither
the API address nor the token has a line feed in it.  And a file that can be read back is the file of
no other fields. -/
theorem reads_back_iff {config : WorkloadConfig} {tokens : Dict String} {fields : EndpointFields}
    (h : endpointFields config tokens = .ok fields) (ns : String) :
    ∃ text, endpointFile? (endpointSecret ns fields) = some text ∧
      (readProperties text = fields ↔
        IsLine config.spec.apiUrl ∧ IsLine ((tokens.get? "dataIngestToken").getD "")) ∧
      (readProperties text = fields →
        ∀ config' tokens' fields' ns', endpointFields config' tokens' = .ok fields' →
          endpointFile? (endpointSecret ns' fields') = some text → fields' = fields) := by
  obtain ⟨-, token, htoken, rfl⟩ := endpointFields_eq_ok_iff.mp h
  have htext : (tokens.get? ingestTokenSecretKey).getD "" = token := by
    rw [(nonEmpty?_eq_some_iff.mp htoken).1, Option.getD_some]
  refine ⟨_, endpointFile?_endpointSecret ns _, ?_,
    fun hback config' tokens' fields' ns' h' hfile => ?_⟩
  · change _ ↔ _ ∧ IsLine ((tokens.get? ingestTokenSecretKey).getD "")
    rw [readProperties_fields_iff, isLine_url_iff, htext, and_comm]
  · obtain ⟨-, token', -, rfl⟩ := endpointFields_eq_ok_iff.mp h'
    rw [endpointFile?_endpointSecret] at hfile
    have hsame := Option.some.inj hfile
    obtain ⟨hline, hline'⟩ := (readProperties_fields_iff _ _).mp hback
    -- The files have the same line feeds, so no value of the other one has any.
    have hcount := congrArg (fun text => (String.toList text).count '\n') hsame
    simp only [count_newline_properties, List.count_eq_zero.mpr hline,
      List.count_eq_zero.mpr hline'] at hcount
    have hback' := (readProperties_fields_iff
      (trimSlashes config'.spec.apiUrl ++ "/v2/metrics/ingest") token').mpr
        ⟨List.count_eq_zero.mp (by omega), List.count_eq_zero.mp (by omega)⟩
    rw [← hback', hsame, hback]

/-! ## 4. Two tokens -/

/-- A config with an API address. -/
def addressedConfig (apiUrl : String) : WorkloadConfig := { spec := { apiUrl } }

/-- Tokens with a token for the endpoint. -/
def endpointTokens (token : String) : Dict String := .ofList [(ingestTokenSecretKey, token)]

/-- The fields for an address and a token. -/
def fieldsOf (url token : String) : EndpointFields :=
  .ofList [(ingestUrlKey, url), (ingestTokenKey, token)]

/-- Equals signs, blanks and carriage returns in a token do no harm. -/
theorem read_back_of_signedToken :
    endpointFields (addressedConfig "https://t/ä=1/") (endpointTokens " a=b==\r") =
        .ok (fieldsOf "https://t/ä=1/v2/metrics/ingest" " a=b==\r") ∧
      ∃ text, endpointFile? (endpointSecret "shop"
          (fieldsOf "https://t/ä=1/v2/metrics/ingest" " a=b==\r")) = some text ∧
        readProperties text = fieldsOf "https://t/ä=1/v2/metrics/ingest" " a=b==\r" := by
  have h : endpointFields (addressedConfig "https://t/ä=1/") (endpointTokens " a=b==\r") =
      .ok (fieldsOf "https://t/ä=1/v2/metrics/ingest" " a=b==\r") :=
    endpointFields_eq_ok_iff.mpr ⟨by decide +kernel, " a=b==\r", by decide +kernel,
      by decide +kernel⟩
  obtain ⟨text, hfile, hback, -⟩ := reads_back_iff h "shop"
  exact ⟨h, text, hfile, hback.mpr (by decide +kernel)⟩

/-- **A line feed in a token breaks the file**: a property is read from it that is none of the
fields, and the token is cut short.  With a line feed in the address too, one file is that of two
different fields. -/
theorem brokenToken_adds_property :
    endpointFields (addressedConfig "https://t") (endpointTokens "t\nLD_PRELOAD=x") =
        .ok (fieldsOf "https://t/v2/metrics/ingest" "t\nLD_PRELOAD=x") ∧
      (∃ text, endpointFile? (endpointSecret "shop"
          (fieldsOf "https://t/v2/metrics/ingest" "t\nLD_PRELOAD=x")) = some text ∧
        readProperties text =
          .ofList [("LD_PRELOAD", "x"), (ingestUrlKey, "https://t/v2/metrics/ingest"),
            (ingestTokenKey, "t")] ∧
        readProperties text ≠ fieldsOf "https://t/v2/metrics/ingest" "t\nLD_PRELOAD=x") ∧
      endpointFields (addressedConfig "v") (endpointTokens "t\nBEACON_METRICS_INGEST_URL=u") =
        .ok (fieldsOf "v/v2/metrics/ingest" "t\nBEACON_METRICS_INGEST_URL=u") ∧
      endpointFields (addressedConfig "u\nBEACON_METRICS_INGEST_URL=v") (endpointTokens "t") =
        .ok (fieldsOf "u\nBEACON_METRICS_INGEST_URL=v/v2/metrics/ingest" "t") ∧
      fieldsOf "v/v2/metrics/ingest" "t\nBEACON_METRICS_INGEST_URL=u" ≠
        fieldsOf "u\nBEACON_METRICS_INGEST_URL=v/v2/metrics/ingest" "t" ∧
      endpointFile? (endpointSecret "shop"
          (fieldsOf "v/v2/metrics/ingest" "t\nBEACON_METRICS_INGEST_URL=u")) =
        endpointFile? (endpointSecret "shop"
          (fieldsOf "u\nBEACON_METRICS_INGEST_URL=v/v2/metrics/ingest" "t")) := by
  have hmade : ∀ apiUrl token : String, (trimSlashes apiUrl).isEmpty = false →
      token ≠ "" →
      endpointFields (addressedConfig apiUrl) (endpointTokens token) =
        .ok (fieldsOf (trimSlashes apiUrl ++ "/v2/metrics/ingest") token) := by
    intro apiUrl token hurl htoken
    have hget : (endpointTokens token).get? ingestTokenSecretKey = some token := by
      simp [endpointTokens, Dict.ofList]
    exact endpointFields_eq_ok_iff.mpr
      ⟨hurl, token, nonEmpty?_eq_some_iff.mpr ⟨hget, htoken⟩, rfl⟩
  refine ⟨hmade _ _ (by decide +kernel) (by decide +kernel),
    ⟨_, endpointFile?_endpointSecret _ _, by decide +kernel, by decide +kernel⟩,
    hmade _ _ (by decide +kernel) (by decide +kernel),
    hmade _ _ (by decide +kernel) (by decide +kernel), by decide +kernel, ?_⟩
  rw [endpointFile?_endpointSecret, endpointFile?_endpointSecret]
  decide +kernel

end Provision
end InjectionWebhook
