/-
# Secrets

A secret holds bytes under keys, written in base64.  `Secret.texts` is the view of a secret as text:
entries that are not UTF-8 are left out, and text entries given beside the bytes win
(`Secret.get?_texts_iff`).
-/
import InjectionWebhook.Kubernetes.Metadata

namespace InjectionWebhook

/-- A text comes back from its bytes. -/
theorem fromUTF8?_toUTF8 (s : String) : String.fromUTF8? s.toUTF8 = some s :=
  dif_pos s.isValidUTF8

theorem fromUTF8?_eq_some_iff {bytes : ByteArray} {text : String} :
    String.fromUTF8? bytes = some text ↔ bytes = text.toUTF8 := by
  constructor
  · intro h
    rw [String.fromUTF8?] at h
    split at h
    · rw [← Option.some.inj h]
      rfl
    · exact absurd h (by simp)
  · rintro rfl
    exact fromUTF8?_toUTF8 text

/-- A secret. -/
structure Secret where
  metadata : ObjectMeta := {}
  data : Option (Dict ByteArray) := none
  stringData : Option (Dict String) := none
  type : Option String := none
  immutable : Option Bool := none

namespace Secret

/-- The entries of a secret that are text. -/
def texts (s : Secret) : Dict String :=
  let ofBytes := (s.data.getD .empty).entries.filterMap fun (key, bytes) =>
    (String.fromUTF8? bytes).map (key, ·)
  ((Dict.empty.extend ofBytes).extend (s.stringData.getD .empty).entries)

/-- A secret says what its text entries say, and where they say nothing, what its bytes say. -/
theorem get?_texts (s : Secret) (key : String) :
    s.texts.get? key = ((s.stringData.getD .empty).get? key).or
      (((s.data.getD .empty).get? key).bind String.fromUTF8?) := by
  have hlist := (s.data.getD .empty).ascending
  change ((Dict.empty.extend ((s.data.getD .empty).entries.filterMap fun e =>
    (String.fromUTF8? e.2).map (e.1, ·))).extend (s.stringData.getD .empty).entries).get? key = _
  rw [Dict.get?_extend, Dict.get?_extend, Dict.get?_empty, Option.or_none,
    Entries.lookup_reverse (s.stringData.getD .empty).ascending,
    Entries.lookup_reverse (Entries.ascending_filterMap _ hlist), Entries.lookup_filterMap _ hlist]
  rfl

/-- A text is given under a key: as text, or else by the bytes that spell it. -/
def Spells (s : Secret) (key text : String) : Prop :=
  (s.stringData.getD .empty).get? key = some text ∨
    (s.stringData.getD .empty).get? key = none ∧
      (s.data.getD .empty).get? key = some text.toUTF8

/-- **The view of a secret as text is what it spells.** -/
theorem get?_texts_iff {s : Secret} {key text : String} :
    s.texts.get? key = some text ↔ s.Spells key text := by
  rw [get?_texts, Spells]
  cases (s.stringData.getD .empty).get? key with
  | some given => simp
  | none =>
    rw [Option.none_or, Option.bind_eq_some_iff]
    simp only [fromUTF8?_eq_some_iff, exists_eq_right, reduceCtorEq, false_or, true_and]

/-- Reads a secret. -/
def decoder : Decoder Secret := .object "Secret" {}
  [.constant "apiVersion" "v1",
   .optional "data" (.dict .bytes) fun v s => { s with data := v },
   .optional "immutable" .flag fun v s => { s with immutable := v },
   .constant "kind" "Secret",
   .orDefault "metadata" ObjectMeta.decoder {} fun v s => { s with metadata := v },
   .optional "stringData" (.dict .text) fun v s => { s with stringData := v },
   .optional "type" .text fun v s => { s with type := v }]

end Secret

end InjectionWebhook
