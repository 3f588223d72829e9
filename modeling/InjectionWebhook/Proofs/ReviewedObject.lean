/-
# Objects under review, key by key

The object under review is read in two stages: its metadata first, and the Pod later, from a document
that is put together again (`Pod.ReadFrom`).  In between API version and kind are taken out of the
members and put back, if both were there; what was taken until a mistake was met is gone.

None of this matters for what the Pod is (`Pod.readFrom_iff`): metadata, specification and status are
what stands at their keys, and of API version and kind it only counts what becomes of them
(`DocumentType.retype`), which no other member has a say in (`DocumentType.takesApart`).
-/
import InjectionWebhook.Proofs.PodFormats
import InjectionWebhook.Review.Document

namespace InjectionWebhook

open Entries (Ascending)

/-! ## 1. Document types -/

namespace DocumentType

/-- The keys that say what type of document an object is. -/
def isKey (key : String) : Bool := key = "apiVersion" || key = "kind"

/-- The members that say it. -/
def membersOf (ms : List (String × Json)) : List (String × Json) := ms.filter fun m => isKey m.1

theorem lookup_membersOf {k : String} (h : isKey k = true) (ms : List (String × Json)) :
    (membersOf ms).lookup k = ms.lookup k := by
  rw [membersOf, Entries.lookup_filter, if_pos h]

/-- No other member matters. -/
theorem membersOf_congr {ms ms' : List (String × Json)} (hms : Ascending ms) (hms' : Ascending ms')
    (h : ∀ k, isKey k = true → ms'.lookup k = ms.lookup k) : membersOf ms' = membersOf ms := by
  refine Entries.eq_of_lookup (hms'.sublist List.filter_sublist) (hms.sublist List.filter_sublist)
    fun k => ?_
  rw [membersOf, membersOf, Entries.lookup_filter, Entries.lookup_filter]
  by_cases hk : isKey k = true
  · rw [if_pos hk, if_pos hk, h k hk]
  · rw [if_neg hk, if_neg hk]

/-- What is taken does not depend on other members, and these stay. -/
structure TakesApart (taken takenOf : Except Mismatch DocumentType × List (String × Json))
    (ms : List (String × Json)) : Prop where
  type : taken.1 = takenOf.1
  left : ∀ k, isKey k = true → taken.2.lookup k = takenOf.2.lookup k
  others : ∀ k, isKey k = false → taken.2.lookup k = ms.lookup k
  sublist : taken.2.Sublist ms

theorem TakesApart.cons {taken takenOf : Except Mismatch DocumentType × List (String × Json)}
    {ms : List (String × Json)} (h : TakesApart taken takenOf ms) {m : String × Json}
    (hm : isKey m.1 = true) : TakesApart taken takenOf (m :: ms) where
  type := h.type
  left := h.left
  others k hk := by
    have hne : k ≠ m.1 := fun heq => by rw [heq, hm] at hk; exact absurd hk (by simp)
    rw [h.others k hk, Entries.lookup_cons_ite, if_neg hne]
  sublist := h.sublist.cons m

/-- Where taking stops, all that stands behind stays. -/
theorem takesApart_stop (e : Mismatch) (ms : List (String × Json)) :
    TakesApart (.error e, ms) (.error e, membersOf ms) ms :=
  ⟨rfl, fun _ hk => (lookup_membersOf hk ms).symm, fun _ _ => rfl, .refl ms⟩

theorem takesApart (ms : List (String × Json)) :
    ∀ p : Partial, TakesApart (p.take ms) (p.take (membersOf ms)) ms := by
  induction ms with
  | nil => exact fun _ => ⟨rfl, fun _ _ => rfl, fun _ _ => rfl, .refl _⟩
  | cons m ms ih =>
    intro p
    obtain ⟨key, value⟩ := m
    by_cases hkey : isKey key = true
    · have hcons : membersOf ((key, value) :: ms) = (key, value) :: membersOf ms :=
        List.filter_cons_of_pos hkey
      rw [hcons, Partial.take, Partial.take]
      refine TakesApart.cons ?_ hkey
      by_cases hversion : key = "apiVersion"
      · rw [if_pos hversion, if_pos hversion]
        cases Partial.half key p.apiVersion value with
        | ok s => exact ih _
        | error e => exact takesApart_stop e ms
      · have hkind : key = "kind" := by simpa [isKey, hversion] using hkey
        rw [if_neg hversion, if_neg hversion, if_pos hkind, if_pos hkind]
        cases Partial.half key p.kind value with
        | ok s => exact ih _
        | error e => exact takesApart_stop e ms
    · have hcons : membersOf ((key, value) :: ms) = membersOf ms :=
        List.filter_cons_of_neg hkey
      have htake : p.take ((key, value) :: ms) =
          ((p.take ms).1, (key, value) :: (p.take ms).2) := by
        have hversion : key ≠ "apiVersion" := fun heq => hkey (by simp [isKey, heq])
        have hkind : key ≠ "kind" := fun heq => hkey (by simp [isKey, heq])
        rw [Partial.take, if_neg hversion, if_neg hkind]
      obtain ⟨htype, hleft, hothers, hsublist⟩ := ih p
      rw [hcons, htake]
      refine ⟨htype, fun k hk => ?_, fun k hk => ?_, hsublist.cons_cons _⟩
      · have hne : k ≠ key := fun heq => hkey (heq ▸ hk)
        rw [Entries.lookup_cons_ite, if_neg hne, hleft k hk]
      · rw [Entries.lookup_cons_ite, Entries.lookup_cons_ite, hothers k hk]

/-- What has been taken, as members again. -/
def written : Option DocumentType → List (String × Json)
  | some t => [("apiVersion", .str t.apiVersion), ("kind", .str t.kind)]
  | none => []

theorem lookup_written_of_not_isKey (type : Option DocumentType) {k : String} (h : isKey k = false) :
    (written type).reverse.lookup k = none := by
  refine Entries.lookup_eq_none fun m hm heq => ?_
  cases type with
  | none => exact absurd hm (by simp [written])
  | some t =>
    have hkey : m.1 = "apiVersion" ∨ m.1 = "kind" := by
      have hm := List.mem_reverse.mp hm
      simp only [written, List.mem_cons, List.not_mem_nil, or_false] at hm
      exact hm.imp (congrArg Prod.fst) (congrArg Prod.fst)
    rw [← heq] at h
    rcases hkey with hkey | hkey <;> simp [isKey, hkey] at h

theorem canonical_of_mem_written {type : Option DocumentType} {m : String × Json}
    (h : m ∈ written type) : m.2.Canonical := by
  cases type with
  | none => exact absurd h List.not_mem_nil
  | some t =>
    simp only [written, List.mem_cons, List.not_mem_nil, or_false] at h
    rcases h with rfl | rfl <;> trivial

/-- What becomes of the members that say what type of document an object is. -/
def retype (ms : List (String × Json)) (k : String) : Option Json :=
  ((take (membersOf ms)).2.lookup k).or ((written (take (membersOf ms)).1.toOption).reverse.lookup k)

end DocumentType

/-! ## 2. Reading in two stages -/

/-- A Pod is read from an object under review: first the object from the document, then the Pod from
the object. -/
def Pod.ReadFrom (raw : Json) (pod : Pod) : Prop :=
  ∃ o, ReviewedObject.decoder.ofJson raw = .ok o ∧ o.pod = .ok pod

namespace ReviewedObject

/-- The field that is read in the first stage. -/
def metadataField : Field ObjectMeta := .plain "metadata" ObjectMeta.decoder fun v _ => v

/-- **The first stage** reads the metadata and takes the type apart. -/
theorem decoder_ofJson_iff {ms : List (String × Json)} (hms : (Json.obj ms).Canonical)
    {o : ReviewedObject} : decoder.ofJson (.obj ms) = .ok o ↔
      Decoder.readField metadataField {} (ms.lookup "metadata") = .ok o.metadata ∧
        o.type = (DocumentType.take (Json.eraseMember "metadata" ms)).1.toOption ∧
        o.others = (DocumentType.take (Json.eraseMember "metadata" ms)).2 := by
  have hneed : metadataField.need ≠ .always := Need.noConfusion
  have hread : decoder.ofJson (.obj ms) =
      ((Decoder.openRecord "struct DynamicObject" {} [metadataField]).ofJson (.obj ms) >>=
        fun r => Except.ok
          { type := (DocumentType.take r.2).1.toOption, metadata := r.1
            others := (DocumentType.take r.2).2 }) := rfl
  rw [hread, bind_eq_ok]
  constructor
  · rintro ⟨⟨metadata, members⟩, hopen, ho⟩
    obtain ⟨_, ⟨⟩, hmetadata, rfl⟩ := (Decoder.openRecord_ofJson_iff hneed hms).mp hopen
    obtain rfl := Except.ok.inj ho
    exact ⟨hmetadata, rfl, rfl⟩
  · rintro ⟨hmetadata, htype, hothers⟩
    obtain ⟨type, metadata, others⟩ := o
    dsimp only at hmetadata htype hothers
    rw [htype, hothers]
    exact ⟨(metadata, _), (Decoder.openRecord_ofJson_iff hneed hms).mpr ⟨ms, rfl, hmetadata, rfl⟩,
      rfl⟩

/-- The members of an object that is a document again. -/
def members (o : ReviewedObject) : List (String × Json) :=
  (Dict.ofList
    (DocumentType.written o.type ++ ("metadata", o.metadata.toJson) :: o.others)).entries

theorem toJson_eq (o : ReviewedObject) : o.toJson = .obj o.members := by
  obtain ⟨_ | _, metadata, others⟩ := o <;> rfl

theorem lookup_members {o : ReviewedObject} (h : Ascending o.others) (k : String) :
    o.members.lookup k =
      (o.others.lookup k).or
        ((if k = "metadata" then some o.metadata.toJson else none).or
          ((DocumentType.written o.type).reverse.lookup k)) := by
  have hget : o.members.lookup k = (DocumentType.written o.type ++
      ("metadata", o.metadata.toJson) :: o.others).reverse.lookup k := by
    change (Dict.ofList _).get? k = _
    rw [Dict.ofList, Dict.get?_extend, Dict.get?_empty, Option.or_none]
  rw [hget, List.reverse_append, List.reverse_cons, List.lookup_append, List.lookup_append,
    Entries.lookup_reverse h, Entries.lookup_cons_ite, List.lookup_nil, Option.or_assoc]

/-- What stands where in the document that the Pod is read from. -/
structure Assembled (ms ms₀ : List (String × Json)) (metadata : ObjectMeta) : Prop where
  canonical : (Json.obj ms₀).Canonical
  type : ∀ k, DocumentType.isKey k = true → ms₀.lookup k = DocumentType.retype ms k
  metadata : ms₀.lookup "metadata" = some metadata.toJson
  others : ∀ k, DocumentType.isKey k = false → k ≠ "metadata" → ms₀.lookup k = ms.lookup k

theorem membersOf_eraseMember {ms : List (String × Json)} (h : Ascending ms) :
    DocumentType.membersOf (Json.eraseMember "metadata" ms) = DocumentType.membersOf ms := by
  refine DocumentType.membersOf_congr h (Json.ascending_eraseMember h _) fun k hk => ?_
  have hne : k ≠ "metadata" := fun heq => by rw [heq] at hk; exact absurd hk (by decide)
  rw [Json.lookup_eraseMember, if_neg hne]

theorem assembled {ms : List (String × Json)} (hms : (Json.obj ms).Canonical) {o : ReviewedObject}
    (h : decoder.ofJson (.obj ms) = .ok o) : Assembled ms o.members o.metadata := by
  obtain ⟨-, htype, hothers⟩ := (decoder_ofJson_iff hms).mp h
  obtain ⟨hascending, hcanonical⟩ := Json.canonical_obj.mp hms
  have herased := Json.ascending_eraseMember hascending "metadata"
  obtain ⟨htaken, hleft, hrest, hsublist⟩ :=
    DocumentType.takesApart (Json.eraseMember "metadata" ms) {}
  rw [membersOf_eraseMember hascending] at htaken hleft
  change (DocumentType.take (Json.eraseMember "metadata" ms)).1 = _ at htaken
  have hlookup := fun k => lookup_members (o := o) (hothers ▸ herased.sublist hsublist) k
  have hnotkey : DocumentType.isKey "metadata" = false := by decide
  refine ⟨?_, fun k hk => ?_, ?_, fun k hk hne => ?_⟩
  · refine Json.canonical_obj.mpr ⟨(Dict.ofList _).ascending, fun k v hv => ?_⟩
    rw [hlookup k] at hv
    cases hother : o.others.lookup k with
    | some w =>
      rw [hother, Option.some_or, Option.some.injEq] at hv
      have hmem : (k, w) ∈ Json.eraseMember "metadata" ms :=
        hsublist.subset (hothers ▸ Entries.mem_of_lookup hother)
      exact hv ▸ Json.canonicalMembers_iff.mp hms.2 _ (List.mem_of_mem_filter hmem)
    | none =>
      rw [hother, Option.none_or] at hv
      by_cases hk : k = "metadata"
      · rw [if_pos hk, Option.some_or, Option.some.injEq] at hv
        exact hv ▸ ObjectMeta.record.canonical_encode o.metadata
      · rw [if_neg hk, Option.none_or] at hv
        exact DocumentType.canonical_of_mem_written (List.mem_reverse.mp (Entries.mem_of_lookup hv))
  · have hne : k ≠ "metadata" := fun heq => by rw [heq, hnotkey] at hk; exact absurd hk (by simp)
    rw [hlookup k, if_neg hne, Option.none_or, hothers, htype, htaken]
    exact congrArg (Option.or · _) (hleft k hk)
  · have hnone : o.others.lookup "metadata" = none := by
      rw [hothers]
      refine (hrest "metadata" hnotkey).trans ?_
      rw [Json.lookup_eraseMember, if_pos rfl]
    rw [hlookup, hnone, if_pos rfl, Option.none_or, Option.some_or]
  · rw [hlookup k, if_neg hne, Option.none_or, DocumentType.lookup_written_of_not_isKey _ hk,
      Option.or_none, hothers]
    refine (hrest k hk).trans ?_
    rw [Json.lookup_eraseMember, if_neg hne]

end ReviewedObject

namespace Pod

/-- The members that say what type of document an object is do not speak against a Pod. -/
def TypeFits (ms : List (String × Json)) : Prop :=
  ∀ k text, record.constants.lookup k = some text → ∀ j, DocumentType.retype ms k = some j →
    j = .str text

theorem isKey_of_constant {k text : String} (h : record.constants.lookup k = some text) :
    DocumentType.isKey k = true := by
  have hmem := Entries.mem_of_lookup h
  simp only [record, List.mem_cons, Prod.mk.injEq, List.not_mem_nil, or_false] at hmem
  rcases hmem with ⟨rfl, -⟩ | ⟨rfl, -⟩ <;> decide

theorem not_isKey_of_slot {slot : Slot Pod} (h : slot ∈ record.slots) :
    DocumentType.isKey slot.key = false := by
  simp only [record, List.mem_cons, List.not_mem_nil, or_false] at h
  rcases h with rfl | rfl | rfl <;> decide

theorem metadataSlot_mem : metadataSlot ∈ record.slots := List.mem_cons_self

theorem eq_metadataSlot {slot : Slot Pod} (h : slot ∈ record.slots) (hkey : slot.key = "metadata") :
    slot = metadataSlot := by
  by_contra hne
  exact Record.key_ne_of_ne h metadataSlot_mem hne hkey

/-- All slots but the metadata show their parts. -/
def ShowsRest (ms : List (String × Json)) (pod : Pod) : Prop :=
  ∀ slot ∈ record.slots, slot ≠ metadataSlot → slot.Shows (ms.lookup slot.key) (slot.get pod)

/-- The second stage, key by key. -/
theorem pod_ofJson_iff {ms : List (String × Json)} (hms : (Json.obj ms).Canonical) {pod : Pod}
    {o : ReviewedObject} (ho : ReviewedObject.decoder.ofJson (.obj ms) = .ok o) :
    o.pod = .ok pod ↔ TypeFits ms ∧ o.metadata = pod.metadata ∧ ShowsRest ms pod := by
  have hassembled := ReviewedObject.assembled hms ho
  rw [ReviewedObject.pod, ReviewedObject.toJson_eq, decoder_eq,
    Record.ofJson_iff hassembled.canonical]
  simp only [Json.obj.injEq, exists_eq_left']
  have hread : ObjectMeta.record.decoder.ofJson o.metadata.toJson = .ok o.metadata :=
    ObjectMeta.record.format.read_encode (ObjectMeta.fits o.metadata)
  have hothers : ∀ slot ∈ record.slots, slot ≠ metadataSlot →
      o.members.lookup slot.key = ms.lookup slot.key := by
    intro slot hslot hne
    exact hassembled.others slot.key (not_isKey_of_slot hslot)
      fun heq => hne (eq_metadataSlot hslot heq)
  refine and_congr ?_ ?_
  · refine forall₃_congr fun k text htext => ?_
    rw [hassembled.type k (isKey_of_constant htext)]
  · constructor
    · intro hshows
      constructor
      · have hmetadata : metadataSlot.Shows (some o.metadata.toJson) (some pod.metadata) :=
          hassembled.metadata ▸ hshows metadataSlot metadataSlot_mem
        have hread' := Slot.shows_some (ObjectMeta.record.format.encode_ne_null
          (ObjectMeta.fits o.metadata)) hmetadata
        exact Except.ok.inj (hread.symm.trans hread')
      · intro slot hslot hne
        exact hothers slot hslot hne ▸ hshows slot hslot
    · rintro ⟨hmetadata, hrest⟩ slot hslot
      by_cases heq : slot = metadataSlot
      · rw [heq]
        have hshows : metadataSlot.Shows (some o.metadata.toJson) (some o.metadata) :=
          Slot.shows_of_read hread
        rw [hmetadata] at hshows
        exact hassembled.metadata ▸ hmetadata ▸ hshows
      · exact (hothers slot hslot heq).symm ▸ hrest slot hslot heq

/-- **A Pod is read key by key**, although it is read in two stages. -/
theorem readFrom_iff {ms : List (String × Json)} (hms : (Json.obj ms).Canonical) {pod : Pod} :
    ReadFrom (.obj ms) pod ↔ TypeFits ms ∧
      Decoder.readField ReviewedObject.metadataField {} (ms.lookup "metadata") = .ok pod.metadata ∧
      ShowsRest ms pod := by
  constructor
  · rintro ⟨o, ho, hpod⟩
    obtain ⟨htype, hmetadata, hrest⟩ := (pod_ofJson_iff hms ho).mp hpod
    exact ⟨htype, hmetadata ▸ ((ReviewedObject.decoder_ofJson_iff hms).mp ho).1, hrest⟩
  · rintro ⟨htype, hmetadata, hrest⟩
    have ho := (@ReviewedObject.decoder_ofJson_iff _ hms ⟨_, pod.metadata, _⟩).mpr
      ⟨hmetadata, rfl, rfl⟩
    exact ⟨_, ho, (pod_ofJson_iff hms ho).mpr ⟨htype, rfl, hrest⟩⟩

/-- What is read in two stages is one Pod. -/
theorem ReadFrom.unique {raw : Json} {pod pod' : Pod} (h : ReadFrom raw pod)
    (h' : ReadFrom raw pod') : pod = pod' := by
  obtain ⟨o, ho, hpod⟩ := h
  obtain ⟨o', ho', hpod'⟩ := h'
  obtain rfl := Except.ok.inj (ho.symm.trans ho')
  exact Except.ok.inj (hpod.symm.trans hpod')

end Pod

end InjectionWebhook
