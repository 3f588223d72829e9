/-
# Formats of records

A `Slot` is one part of a record: the key it has in documents, its format, and how to get it out of
the record and put it in.  A `Record` is a list of slots that do not get in each other's way and
together say all about a value; it may have constants beside them, texts that stand in every document
of the kind.

* `Record.ofJson_iff`: a record is read slot by slot;
* `Record.exists_updated_members`: it is patched slot by slot, and members that belong to no slot
  stay as they are;
* `Record.format`: so it is a format.
-/
import InjectionWebhook.Proofs.Formats

namespace InjectionWebhook

open Json (Path Covers Kept)
open Entries (Ascending)

/-! ## 1. Slots -/

/-- One part of a record. -/
structure Slot (σ : Type) where
  key : String
  Part : Type
  format : Format Part
  /-- What stands for a part that is not given. -/
  default? : Option Part
  get : σ → Option Part
  put : Option Part → σ → σ
  get_put : ∀ v s, get (put v s) = v.or default?
  default?_of_get : ∀ s, get s = none → default? = none
  fits_default : ∀ a, default? = some a → format.fits a

namespace Slot

variable {σ : Type}

/-- A part that may be missing. -/
def optional (key : String) (format : Format α) (get : σ → Option α) (put : Option α → σ → σ)
    (get_put : ∀ v s, get (put v s) = v := by intros; rfl) : Slot σ where
  key
  Part := α
  format
  default? := none
  get
  put
  get_put v s := by rw [get_put, Option.or_none]
  default?_of_get _ _ := rfl
  fits_default _ h := absurd h (by simp)

/-- A part that is always there; it has a default. -/
def orDefault (key : String) (format : Format α) (default : α) (get : σ → α) (put : α → σ → σ)
    (get_put : ∀ v s, get (put v s) = v := by intros; rfl)
    (fits : format.fits default := by trivial) : Slot σ where
  key
  Part := α
  format
  default? := some default
  get s := some (get s)
  put v := put (v.getD default)
  get_put v s := by
    rw [get_put]
    cases v <;> rfl
  default?_of_get _ h := absurd h (by simp)
  fits_default a h := Option.some.inj h ▸ fits

/-- What reads the part. -/
def field (slot : Slot σ) : Field σ := .plain slot.key slot.format.decoder.nullable slot.put

/-- The member of a written record. -/
def member (slot : Slot σ) (s : σ) : String × Option Json :=
  (slot.key, (slot.get s).map slot.format.encode)

/-- Neither of two parts is touched where the other one is put in. -/
def Apart (slot slot' : Slot σ) : Prop :=
  (∀ v s, slot'.get (slot.put v s) = slot'.get s) ∧ ∀ v s, slot.get (slot'.put v s) = slot.get s

instance : Std.Symm (@Apart σ) := ⟨fun _ _ h => ⟨h.2, h.1⟩⟩

/-- Between two records nothing gets lost inside a slot on the way to a place. -/
def Keeps (slot : Slot σ) (a b : σ) (π : Path) : Prop :=
  ∀ x, slot.get a = some x →
    ∃ y, slot.get b = some y ∧ Kept (slot.format.encode x) (slot.format.encode y) π

theorem keeps_of_eq {slot : Slot σ} {a b : σ} (h : slot.get b = slot.get a) (π : Path) :
    slot.Keeps a b π := fun x hx => ⟨x, h.trans hx, .refl _ π⟩

/-- What reading a member, if it is there, makes of a part. -/
def Reads (slot : Slot σ) (member? : Option Json) (old new : Option slot.Part) : Prop :=
  match member? with
  | none => new = old
  | some j => ∃ v, slot.format.decoder.nullable.ofJson j = .ok v ∧ v.or slot.default? = new

/-- A member says what a part is. -/
def Shows (slot : Slot σ) (member? : Option Json) (x : Option slot.Part) : Prop :=
  slot.Reads member? slot.default? x

variable {slot : Slot σ} {x y : Option slot.Part} {before : Option Json}

theorem shows_some {j : Json} {a : slot.Part} (hj : j ≠ .null)
    (h : slot.Shows (some j) (some a)) : slot.format.decoder.ofJson j = .ok a := by
  obtain ⟨v, hv, hor⟩ := h
  rw [Decoder.nullable_ofJson_of_ne hj] at hv
  obtain ⟨a', hread, rfl⟩ := map_eq_ok.mp hv
  rw [hread, Option.some.inj hor]

theorem shows_of_read {j : Json} {a : slot.Part} (h : slot.format.decoder.ofJson j = .ok a) :
    slot.Shows (some j) (some a) := by
  have hne : j ≠ .null := fun heq => slot.format.refuses_null a (heq ▸ h)
  exact ⟨some a, by rw [Decoder.nullable_ofJson_of_ne hne, h]; rfl, rfl⟩

/-- Where a part is missing, there is nothing or `null`. -/
theorem eq_null_of_shows_none {j : Json} (h : slot.Shows (some j) none) : j = .null := by
  by_contra hne
  obtain ⟨v, hv, hor⟩ := h
  rw [Decoder.nullable_ofJson_of_ne hne] at hv
  obtain ⟨a, -, rfl⟩ := map_eq_ok.mp hv
  exact absurd hor (by simp)

/-- What becomes of the member of a part under the patch from one value to another. -/
def patched (slot : Slot σ) (x y : Option slot.Part) (before : Option Json) : Option Json :=
  Json.patchedMember (x.map slot.format.encode) (y.map slot.format.encode) before

/-- The member of a part is patched from one value to another. -/
structure Moved (slot : Slot σ) (x y : Option slot.Part) (before : Option Json) : Prop where
  patches : Json.Patches (x.map slot.format.encode) (y.map slot.format.encode) before
  canonical : ∀ v, slot.patched x y before = some v → v.Canonical
  shows : slot.Shows (slot.patched x y before) y
  reads : ∀ b, y = some b →
    ∃ v, slot.patched x y before = some v ∧ slot.format.decoder.ofJson v = .ok b
  keeps : ∀ π v, Foreign slot.format.encode π →
    (∀ a, x = some a → ∃ b, y = some b ∧ Kept (slot.format.encode a) (slot.format.encode b) π) →
    before.bind (·.get? π) = some v → (slot.patched x y before).bind (·.get? π) = some v

theorem moved (hcanonical : ∀ v, before = some v → v.Canonical) (hshows : slot.Shows before x)
    (hcovers : ∀ a, x = some a →
      ∃ v, before = some v ∧ v ≠ .null ∧ Covers v (slot.format.encode a))
    (hy : y = none → slot.default? = none) (hfits : ∀ b, y = some b → slot.format.fits b) :
    slot.Moved x y before := by
  cases y with
  | none =>
    cases x with
    | none =>
      exact ⟨fun _ _ h => absurd h (by simp), hcanonical, hshows, fun _ h => absurd h (by simp),
        fun _ _ _ _ h => h⟩
    | some a =>
      refine ⟨fun _ _ _ h => absurd h (by simp),
        fun _ h => absurd h (by simp [patched, Json.patchedMember]), (hy rfl).symm,
        fun _ h => absurd h (by simp), ?_⟩
      intro π v _ hkept _
      obtain ⟨b, hb, -⟩ := hkept a rfl
      exact absurd hb (by simp)
  | some b =>
    obtain ⟨after, hafter⟩ := @slot.format.exists_updated _ x b before
      (fun a ha => by
        obtain ⟨v, rfl, hne, hvcovers⟩ := hcovers a ha
        rw [ha] at hshows
        exact ⟨v, rfl, hcanonical v rfl, shows_some hne hshows, hvcovers⟩)
      (hfits b rfl)
    have happlied : slot.patched x (some b) before = some after := hafter.applied
    refine ⟨hafter.patches, ?_, ?_, ?_, ?_⟩
    · intro v hv
      rw [happlied] at hv
      exact Option.some.inj hv ▸ hafter.canonical
    · rw [happlied]
      exact shows_of_read hafter.reads
    · rintro _ ⟨⟩
      exact ⟨after, happlied, hafter.reads⟩
    · intro π v hforeign hkept hv
      rw [happlied]
      obtain ⟨j, rfl, hj⟩ := Option.bind_eq_some_iff.mp hv
      cases x with
      | some a =>
        obtain ⟨_, ⟨⟩, hkept⟩ := hkept a rfl
        exact hafter.keeps rfl rfl hforeign hkept hj
      | none =>
        -- What is overwritten here is `null`, and nothing lies inside it.
        obtain rfl := eq_null_of_shows_none hshows
        cases π with
        | nil => exact absurd hforeign (not_foreign_nil _ b)
        | cons step rest =>
          have hnone : Json.null.get? (step :: rest) = none := Json.get?_of_isScalar rfl step rest
          rw [hnone] at hj
          exact absurd hj (by simp)

end Slot

/-! ## 2. Records -/

/-- A record: constants that stand in every document, and slots that make up a value. -/
structure Record (σ : Type) where
  name : String
  start : σ
  constants : List (String × String) := []
  slots : List (Slot σ)
  ascending : (constants.map (·.1) ++ slots.map (·.key)).Pairwise (· < ·) := by decide
  apart : slots.Pairwise Slot.Apart := by simp [Slot.Apart, Slot.optional, Slot.orDefault]
  get_start : ∀ slot ∈ slots, slot.get start = slot.default? := by
    simp [Slot.optional, Slot.orDefault]
  ext : ∀ s s', (∀ slot ∈ slots, slot.get s = slot.get s') → s = s' := by
    rintro ⟨⟩ ⟨⟩ h
    simp_all [Slot.optional, Slot.orDefault]

namespace Record

variable {σ : Type} (r : Record σ)

/-- The fields of a record. -/
def fields : List (Field σ) :=
  r.constants.map (fun c => .constant c.1 c.2) ++ r.slots.map (·.field)

/-- Reads a record. -/
def decoder : Decoder σ := .object r.name r.start r.fields

/-- The members of a written record, and those left out. -/
def members (s : σ) : List (String × Option Json) :=
  r.constants.map (fun c => (c.1, some (.str c.2))) ++ r.slots.map (·.member s)

/-- Writes a record. -/
def encode (s : σ) : Json := .record (r.members s)

/-- The key belongs to no slot. -/
def Strange (key : String) : Prop := ∀ slot ∈ r.slots, slot.key ≠ key

variable {r}

theorem key_ne_of_ne {slot slot' : Slot σ} (h : slot ∈ r.slots) (h' : slot' ∈ r.slots)
    (hne : slot ≠ slot') : slot.key ≠ slot'.key := fun heq =>
  hne (Entries.eq_of_key (List.pairwise_append.mp r.ascending).2.1 h h' heq)

theorem ascending_constants (r : Record σ) : Ascending r.constants :=
  List.pairwise_map.mp (List.pairwise_append.mp r.ascending).1

theorem strange_constant {c : String × String} (h : c ∈ r.constants) : r.Strange c.1 := by
  intro slot hslot heq
  have hlt := (List.pairwise_append.mp r.ascending).2.2 c.1 (List.mem_map_of_mem h) slot.key
    (List.mem_map_of_mem hslot)
  rw [heq] at hlt
  exact String.lt_irrefl _ hlt

/-! ## 3. What is written -/

theorem ascending_members (s : σ) : Ascending (r.members s) := by
  have hkeys : (r.members s).map (·.1) = r.constants.map (·.1) ++ r.slots.map (·.key) := by
    rw [members, List.map_append, List.map_map, List.map_map]
    rfl
  have h := r.ascending
  rw [← hkeys, List.pairwise_map] at h
  exact h

/-- Members left out leave no trace. -/
theorem lookup_record {ms : List (String × Option Json)} (h : Ascending ms) (k : String) :
    (ms.filterMap fun m => m.2.map (m.1, ·)).lookup k = (ms.lookup k).join := by
  induction ms with
  | nil => rfl
  | cons m ms ih =>
    have ih := ih (List.pairwise_cons.mp h).2
    obtain ⟨key, value?⟩ := m
    rw [Entries.lookup_cons_ite]
    cases value? with
    | none =>
      rw [List.filterMap_cons_none rfl, ih]
      by_cases hk : k = key
      · rw [if_pos hk, hk, Entries.lookup_tail_of_not_lt h (String.lt_irrefl key)]
        rfl
      · rw [if_neg hk]
    | some value =>
      have hcons : ((key, some value) :: ms).filterMap (fun m => m.2.map (m.1, ·)) =
          (key, value) :: ms.filterMap fun m => m.2.map (m.1, ·) := rfl
      rw [hcons, Entries.lookup_cons_ite, ih]
      by_cases hk : k = key
      · rw [if_pos hk, if_pos hk]
        rfl
      · rw [if_neg hk, if_neg hk]

theorem ascending_record {ms : List (String × Option Json)} (h : Ascending ms) :
    Ascending (ms.filterMap fun m => m.2.map (m.1, ·)) := by
  refine List.pairwise_filterMap.mpr (h.imp ?_)
  intro m m' hlt e he e' he'
  obtain ⟨v, -, rfl⟩ := Option.map_eq_some_iff.mp he
  obtain ⟨v', -, rfl⟩ := Option.map_eq_some_iff.mp he'
  exact hlt

variable (r)

/-- The members of a written record that are not left out. -/
def written (s : σ) : List (String × Json) := (r.members s).filterMap fun m => m.2.map (m.1, ·)

theorem encode_eq (s : σ) : r.encode s = .obj (r.written s) := rfl

theorem ascending_written (s : σ) : Ascending (r.written s) :=
  ascending_record (ascending_members s)

/-- A slot is written at its key. -/
theorem lookup_written {slot : Slot σ} (h : slot ∈ r.slots) (s : σ) :
    (r.written s).lookup slot.key = (slot.get s).map slot.format.encode := by
  have hmem : slot.member s ∈ r.members s :=
    List.mem_append_right _ (List.mem_map_of_mem h)
  rw [written, lookup_record (ascending_members s),
    Entries.lookup_of_mem (ascending_members s) hmem]
  rfl

/-- At the keys of no slot stand the constants, and nothing else. -/
theorem lookup_written_of_strange {k : String} (h : r.Strange k) (s : σ) :
    (r.written s).lookup k = (r.constants.lookup k).map .str := by
  have hslots : (r.slots.map (·.member s)).lookup k = none := by
    refine Entries.lookup_eq_none fun m hm => ?_
    obtain ⟨slot, hslot, rfl⟩ := List.mem_map.mp hm
    exact h slot hslot
  rw [written, lookup_record (ascending_members s), members, List.lookup_append, hslots,
    Option.or_none, Entries.lookup_map fun text => some (Json.str text)]
  cases r.constants.lookup k <;> rfl

/-! ## 4. Reading -/

variable {r}

theorem keys_fields (r : Record σ) : (r.fields.map (·.key)).Pairwise (· < ·) := by
  have hkeys : r.fields.map (·.key) = r.constants.map (·.1) ++ r.slots.map (·.key) := by
    rw [fields, List.map_append, List.map_map, List.map_map]
    rfl
  rw [hkeys]
  exact r.ascending

theorem find?_field {fields : List (Field σ)} (h : (fields.map (·.key)).Pairwise (· < ·))
    {f : Field σ} (hf : f ∈ fields) : fields.find? (fun g => decide (g.key = f.key)) = some f := by
  induction fields with
  | nil => exact absurd hf List.not_mem_nil
  | cons g fields ih =>
    obtain ⟨hfirst, hrest⟩ := List.pairwise_cons.mp h
    rcases List.mem_cons.mp hf with rfl | hf
    · rw [List.find?_cons_of_pos (by simp)]
    · have hne : g.key ≠ f.key := by
        intro heq
        exact String.lt_irrefl _ (heq ▸ hfirst f.key (List.mem_map_of_mem hf))
      rw [List.find?_cons_of_neg (by simpa using hne), ih hrest hf]

/-- How the members of a document are read into a record. -/
def layout (r : Record σ) : Layout σ := { fields := r.fields }

theorem readMember_field {f : Field σ} (hf : f ∈ r.fields) (s : σ) (j : Json) :
    r.layout.readMember s (f.key, j) = f.read none (.ofJson j) s := by
  rw [Layout.readMember, layout, find?_field r.keys_fields hf]

/-- A member that belongs to a slot is put into it. -/
theorem readMember_slot {slot : Slot σ} (hslot : slot ∈ r.slots) (s s' : σ) (j : Json) :
    r.layout.readMember s (slot.key, j) = .ok s' ↔
      ∃ v, slot.format.decoder.nullable.ofJson j = .ok v ∧ slot.put v s = s' := by
  have hfield : slot.field ∈ r.fields := List.mem_append_right _ (List.mem_map_of_mem hslot)
  have hread := r.readMember_field hfield s j
  rw [← map_eq_ok]
  exact Eq.congr_left hread

/-- A constant is as it must be. -/
theorem readMember_constant {k text : String} (h : r.constants.lookup k = some text) (s s' : σ)
    (j : Json) : r.layout.readMember s (k, j) = .ok s' ↔ j = .str text ∧ s = s' := by
  have hfield : Field.constant k text ∈ r.fields := List.mem_append_left _
    (List.mem_map_of_mem (f := fun c => Field.constant c.1 c.2) (Entries.mem_of_lookup h))
  refine (Eq.congr_left (r.readMember_field hfield s j)).trans ?_
  cases j with
  | str found =>
    change (if found = text then Except.ok s else Except.error _) = .ok s' ↔ _
    by_cases heq : found = text
    · rw [if_pos heq]
      simp [heq]
    · rw [if_neg heq]
      simp [heq]
  | _ => exact iff_of_false (fun h => nomatch h) (by simp)

/-- A member that is no field is passed over. -/
theorem readMember_other {k : String} (hslots : r.Strange k)
    (hconstants : r.constants.lookup k = none) (s : σ) (j : Json) :
    r.layout.readMember s (k, j) = .ok s := by
  have hfind : r.fields.find? (fun f => decide (f.key = k)) = none := by
    refine List.find?_eq_none.mpr fun f hf => ?_
    rcases List.mem_append.mp hf with hf | hf
    · obtain ⟨c, hc, rfl⟩ := List.mem_map.mp hf
      intro heq
      have hkey : c.1 = k := of_decide_eq_true heq
      have hlookup := Entries.lookup_of_mem r.ascending_constants hc
      rw [hkey, hconstants] at hlookup
      exact absurd hlookup (by simp)
    · obtain ⟨slot, hslot, rfl⟩ := List.mem_map.mp hf
      exact fun heq => hslots slot hslot (of_decide_eq_true heq)
  rw [Layout.readMember, layout, hfind]
  change ((Json.Written.ofJson j).pass >>= fun _ => Except.ok s) = _
  rw [Json.Written.pass_ofJson]
  rfl

/-- A member that is a constant says what it must say. -/
def Fixed (r : Record σ) (ms : List (String × Json)) : Prop :=
  ∀ k text, r.constants.lookup k = some text → ∀ j, ms.lookup k = some j → j = .str text

theorem fixed_cons {k : String} {j : Json} {ms : List (String × Json)} (hnone : ms.lookup k = none) :
    r.Fixed ((k, j) :: ms) ↔
      (∀ text, r.constants.lookup k = some text → j = .str text) ∧ r.Fixed ms := by
  constructor
  · intro h
    constructor
    · intro text htext
      exact h k text htext j (by rw [Entries.lookup_cons_ite, if_pos rfl])
    · intro k' text htext v hv
      have hne : k' ≠ k := fun heq => by rw [heq, hnone] at hv; exact absurd hv (by simp)
      exact h k' text htext v (by rw [Entries.lookup_cons_ite, if_neg hne, hv])
  · rintro ⟨hhead, hrest⟩ k' text htext v hv
    rw [Entries.lookup_cons_ite] at hv
    by_cases heq : k' = k
    · rw [if_pos heq, Option.some.injEq] at hv
      exact hv ▸ hhead text (heq ▸ htext)
    · rw [if_neg heq] at hv
      exact hrest k' text htext v hv

/-- Members read one record after another. -/
def Reads (r : Record σ) (ms : List (String × Json)) (s s' : σ) : Prop :=
  ∀ slot ∈ r.slots, slot.Reads (ms.lookup slot.key) (slot.get s) (slot.get s')

/-- The same, one slot apart. -/
def ReadsBut (r : Record σ) (slot₀ : Slot σ) (ms : List (String × Json)) (s s' : σ) : Prop :=
  ∀ slot ∈ r.slots, slot ≠ slot₀ → slot.Reads (ms.lookup slot.key) (slot.get s) (slot.get s')

section

variable {slot₀ : Slot σ} {j : Json} {ms : List (String × Json)} {s s' : σ}

/-- Once a slot is filled, the other members do not change it. -/
theorem reads_put (h₀ : slot₀ ∈ r.slots) (hnone : ms.lookup slot₀.key = none)
    (v : Option slot₀.Part) : r.Reads ms (slot₀.put v s) s' ↔
      v.or slot₀.default? = slot₀.get s' ∧ r.ReadsBut slot₀ ms s s' := by
  have hapart : ∀ slot ∈ r.slots, slot ≠ slot₀ → slot.get (slot₀.put v s) = slot.get s := by
    intro slot hslot hne
    exact (r.apart.forall h₀ hslot (Ne.symm hne)).1 v s
  constructor
  · intro h
    constructor
    · have hread := h slot₀ h₀
      rw [hnone] at hread
      exact (slot₀.get_put v s).symm.trans hread.symm
    · intro slot hslot hne
      exact hapart slot hslot hne ▸ h slot hslot
  · rintro ⟨hor, hothers⟩ slot hslot
    by_cases heq : slot = slot₀
    · subst heq
      rw [hnone]
      exact hor.symm.trans (slot.get_put v s).symm
    · exact (hapart slot hslot heq).symm ▸ hothers slot hslot heq

theorem reads_cons (h₀ : slot₀ ∈ r.slots) : r.Reads ((slot₀.key, j) :: ms) s s' ↔
    (∃ v, slot₀.format.decoder.nullable.ofJson j = .ok v ∧
      v.or slot₀.default? = slot₀.get s') ∧ r.ReadsBut slot₀ ms s s' := by
  have hhead : ((slot₀.key, j) :: ms).lookup slot₀.key = some j := by
    rw [Entries.lookup_cons_ite, if_pos rfl]
  have hothers : ∀ slot ∈ r.slots, slot ≠ slot₀ →
      ((slot₀.key, j) :: ms).lookup slot.key = ms.lookup slot.key := by
    intro slot hslot hne
    rw [Entries.lookup_cons_ite, if_neg (key_ne_of_ne hslot h₀ hne)]
  constructor
  · intro h
    constructor
    · have hread := h slot₀ h₀
      rwa [hhead] at hread
    · intro slot hslot hne
      exact hothers slot hslot hne ▸ h slot hslot
  · rintro ⟨hread, hrest⟩ slot hslot
    by_cases heq : slot = slot₀
    · subst heq
      rwa [hhead]
    · exact (hothers slot hslot heq).symm ▸ hrest slot hslot heq

theorem reads_cons_of_strange {k : String} (h : r.Strange k) :
    r.Reads ((k, j) :: ms) s s' ↔ r.Reads ms s s' := by
  refine forall₂_congr fun slot hslot => ?_
  rw [Entries.lookup_cons_ite, if_neg (h slot hslot)]

end

/-- **Members are read slot by slot**, in whatever order they stand. -/
theorem foldlM_readMember {ms : List (String × Json)} (hms : Ascending ms) : ∀ {s s' : σ},
    ms.foldlM r.layout.readMember s = .ok s' ↔ r.Fixed ms ∧ r.Reads ms s s' := by
  induction ms with
  | nil =>
    intro s s'
    have hread : ([] : List (String × Json)).foldlM r.layout.readMember s = .ok s := rfl
    rw [hread, Except.ok.injEq]
    constructor
    · rintro rfl
      exact ⟨fun _ _ _ _ h => absurd h (by simp), fun _ _ => rfl⟩
    · rintro ⟨-, hreads⟩
      exact r.ext s s' fun slot hslot => (hreads slot hslot).symm
  | cons m ms ih =>
    -- The key belongs to a slot, to a constant or to neither; it does not come again.
    intro s s'
    obtain ⟨k, j⟩ := m
    have ih := @ih (List.pairwise_cons.mp hms).2
    have hnone : ms.lookup k = none := Entries.lookup_tail_of_not_lt hms (String.lt_irrefl k)
    rw [List.foldlM_cons, bind_eq_ok, fixed_cons hnone]
    by_cases hslot : ∃ slot ∈ r.slots, slot.key = k
    · obtain ⟨slot₀, h₀, rfl⟩ := hslot
      have hconstant : ∀ text, r.constants.lookup slot₀.key = some text → j = .str text := by
        intro text htext
        exact absurd rfl (strange_constant (Entries.mem_of_lookup htext) slot₀ h₀)
      simp only [readMember_slot h₀, ih, reads_cons h₀]
      constructor
      · rintro ⟨_, ⟨v, hv, rfl⟩, hfixed, hreads⟩
        obtain ⟨hor, hothers⟩ := (reads_put h₀ hnone v).mp hreads
        exact ⟨⟨hconstant, hfixed⟩, ⟨v, hv, hor⟩, hothers⟩
      · rintro ⟨⟨-, hfixed⟩, ⟨v, hv, hor⟩, hothers⟩
        exact ⟨_, ⟨v, hv, rfl⟩, hfixed, (reads_put h₀ hnone v).mpr ⟨hor, hothers⟩⟩
    · have hstrange : r.Strange k := fun slot hslot' heq => hslot ⟨slot, hslot', heq⟩
      rw [reads_cons_of_strange hstrange]
      cases hconstant : r.constants.lookup k with
      | some text =>
        simp only [readMember_constant hconstant, ih, Option.some.injEq, forall_eq', and_assoc,
          exists_and_left, exists_eq_left']
      | none =>
        simp only [readMember_other hstrange hconstant, ih, Except.ok.injEq, exists_eq_left']
        simp

/-- The members show a value: each slot shows its part. -/
def Shows (r : Record σ) (ms : List (String × Json)) (s : σ) : Prop :=
  ∀ slot ∈ r.slots, slot.Shows (ms.lookup slot.key) (slot.get s)

/-- **A record is read slot by slot.** -/
theorem ofJson_iff {j : Json} (hj : j.Canonical) {s : σ} :
    r.decoder.ofJson j = .ok s ↔ ∃ ms, j = .obj ms ∧ r.Fixed ms ∧ r.Shows ms s := by
  have hneed : ∀ f ∈ r.fields, f.need ≠ .always := by
    intro f hf
    rcases List.mem_append.mp hf with hf | hf
    · obtain ⟨c, -, rfl⟩ := List.mem_map.mp hf
      exact Need.noConfusion
    · obtain ⟨slot, -, rfl⟩ := List.mem_map.mp hf
      exact Need.noConfusion
  rw [decoder, Decoder.object_ofJson_iff hneed hj]
  refine exists_congr fun ms => and_congr_right fun hms => ?_
  subst hms
  refine (foldlM_readMember (Json.canonical_obj.mp hj).1).trans (and_congr_right fun _ => ?_)
  refine forall₂_congr fun slot hslot => ?_
  rw [r.get_start slot hslot, Slot.Shows]

/-! ## 5. Patching -/

/-- Every given part can be read back. -/
def Fits (r : Record σ) (s : σ) : Prop :=
  ∀ slot ∈ r.slots, ∀ a, slot.get s = some a → slot.format.fits a

theorem fits_start (r : Record σ) : r.Fits r.start := by
  intro slot hslot a ha
  rw [r.get_start slot hslot] at ha
  exact slot.fits_default a ha

/-- The members say something other than `null` wherever the slots of a value are written. -/
def CoveredBy (r : Record σ) (s : σ) (ms : List (String × Json)) : Prop :=
  ∀ slot ∈ r.slots, ∀ a, slot.get s = some a →
    ∃ v, ms.lookup slot.key = some v ∧ v ≠ .null ∧ Covers v (slot.format.encode a)

/-- Members are patched from one record to another. -/
structure Updated (r : Record σ) (a b : σ) (ms ms' : List (String × Json)) : Prop where
  applied : (Json.diff (r.encode a) (r.encode b)).applyTo? (.obj ms) = some (.obj ms')
  canonical : (Json.obj ms').Canonical
  shows : r.Shows ms' b
  reads : ∀ slot ∈ r.slots, ∀ y, slot.get b = some y →
    ∃ v, ms'.lookup slot.key = some v ∧ slot.format.decoder.ofJson v = .ok y
  /-- Members that belong to no slot stay. -/
  strange : ∀ k, r.Strange k → ms'.lookup k = ms.lookup k
  keeps : ∀ π v, Foreign r.encode π → Kept (r.encode a) (r.encode b) π →
    (Json.obj ms).get? π = some v → (Json.obj ms').get? π = some v

/-- A key belongs to no slot, or to one. -/
theorem strange_or_mem (r : Record σ) (k : String) :
    r.Strange k ∨ ∃ slot ∈ r.slots, slot.key = k := by
  by_cases h : ∃ slot ∈ r.slots, slot.key = k
  · exact .inr h
  · exact .inl fun slot hslot heq => h ⟨slot, hslot, heq⟩

/-- A member of no slot is left alone: it is the same constant on both sides, or on neither. -/
theorem patches_strange {k : String} (h : r.Strange k) (a b : σ) (before : Option Json) :
    Json.Patches ((r.written a).lookup k) ((r.written b).lookup k) before ∧
      Json.patchedMember ((r.written a).lookup k) ((r.written b).lookup k) before = before := by
  rw [r.lookup_written_of_strange h, r.lookup_written_of_strange h]
  cases r.constants.lookup k with
  | none => exact ⟨fun _ _ h => absurd h (by simp), rfl⟩
  | some text =>
    have hdiff : Json.diff (.str text) (.str text) = [] := by simp [Json.diff]
    constructor
    · rintro _ _ ⟨⟩ ⟨⟩
      exact .inl hdiff
    · rw [Option.map_some, Json.patchedMember, hdiff]
      cases before <;> rfl

/-- In a slot, what is foreign to records is what is foreign to the slot. -/
theorem foreign_slot {slot : Slot σ} (hslot : slot ∈ r.slots) {π : Path} :
    Foreign r.encode (.key slot.key :: π) ↔ Foreign slot.format.encode π := by
  constructor
  · intro h a
    have hnone := h (slot.put (some a) r.start)
    rw [encode_eq, Json.get?_obj_key, r.lookup_written hslot, slot.get_put] at hnone
    exact hnone
  · intro h s
    rw [encode_eq, Json.get?_obj_key, r.lookup_written hslot]
    cases slot.get s with
    | none => rfl
    | some a => exact h a

/-- A key that a record does not have is foreign to it, and so is all behind it. -/
theorem foreign_of_not_mem {k : String} (h : k ∉ r.fields.map (·.key)) (π : Path) :
    Foreign r.encode (.key k :: π) := by
  have hstrange : r.Strange k := by
    rintro slot hslot rfl
    exact h (List.mem_map_of_mem (List.mem_append_right _ (List.mem_map_of_mem hslot)))
  have hconstant : r.constants.lookup k = none := by
    refine Entries.lookup_eq_none ?_
    rintro c hc rfl
    have hfield : Field.constant c.1 c.2 ∈ r.fields := List.mem_append_left _
      (List.mem_map_of_mem (f := fun c => Field.constant c.1 c.2) hc)
    exact h (List.mem_map_of_mem (f := Field.key) hfield)
  intro s
  rw [encode_eq, Json.get?_obj_key, r.lookup_written_of_strange hstrange, hconstant]
  rfl

/-- The patch between two records can be carried out, and its effect is known key by key. -/
theorem exists_patched_members {a b : σ} {ms : List (String × Json)} (hms : Ascending ms)
    (hmoved : ∀ slot ∈ r.slots, slot.Moved (slot.get a) (slot.get b) (ms.lookup slot.key))
    (hcovered : r.CoveredBy a ms) :
    ∃ ms', (Json.diff (r.encode a) (r.encode b)).applyTo? (.obj ms) = some (.obj ms') ∧
      Ascending ms' ∧ (∀ k, r.Strange k → ms'.lookup k = ms.lookup k) ∧
      ∀ slot ∈ r.slots, ms'.lookup slot.key =
        slot.patched (slot.get a) (slot.get b) (ms.lookup slot.key) := by
  have hboth : ∀ k, Json.Patches ((r.written a).lookup k) ((r.written b).lookup k)
      (ms.lookup k) := by
    intro k
    rcases r.strange_or_mem k with hk | ⟨slot, hslot, rfl⟩
    · exact (patches_strange hk a b _).1
    · rw [r.lookup_written hslot, r.lookup_written hslot]
      exact (hmoved slot hslot).patches
  have hgone : ∀ k, ((r.written a).lookup k).isSome → (r.written b).lookup k = none →
      (ms.lookup k).isSome := by
    intro k hleft hright
    rcases r.strange_or_mem k with hk | ⟨slot, hslot, rfl⟩
    · rw [r.lookup_written_of_strange hk] at hleft hright
      rw [hright] at hleft
      exact absurd hleft (by simp)
    · rw [r.lookup_written hslot, Option.isSome_map] at hleft
      obtain ⟨x, hx⟩ := Option.isSome_iff_exists.mp hleft
      obtain ⟨v, hv, -⟩ := hcovered slot hslot x hx
      rw [hv]
      rfl
  obtain ⟨ms', happly, hascending, hlookup⟩ := Json.applyTo?_diff_obj (r.ascending_written a)
    (r.ascending_written b) hms hboth hgone
  refine ⟨ms', happly, hascending, fun k hk => ?_, fun slot hslot => ?_⟩
  · rw [hlookup k, (patches_strange hk a b _).2]
  · rw [hlookup slot.key, r.lookup_written hslot, r.lookup_written hslot]
    rfl

/-- **Members are patched slot by slot.** -/
theorem exists_updated_members {a b : σ} {ms : List (String × Json)} (hms : (Json.obj ms).Canonical)
    (hshows : r.Shows ms a) (hcovered : r.CoveredBy a ms) (hb : r.Fits b) :
    ∃ ms', r.Updated a b ms ms' := by
  obtain ⟨hascending, hcanonical⟩ := Json.canonical_obj.mp hms
  have hmoved : ∀ slot ∈ r.slots, slot.Moved (slot.get a) (slot.get b) (ms.lookup slot.key) := by
    intro slot hslot
    exact Slot.moved (fun v hv => hcanonical _ v hv) (hshows slot hslot) (hcovered slot hslot)
      (slot.default?_of_get b) (hb slot hslot)
  obtain ⟨ms', happly, hascending', hstrange, hslots⟩ :=
    exists_patched_members hascending hmoved hcovered
  refine ⟨ms', happly, ?_, ?_, ?_, hstrange, ?_⟩
  · refine Json.canonical_obj.mpr ⟨hascending', fun k v hv => ?_⟩
    rcases r.strange_or_mem k with hk | ⟨slot, hslot, rfl⟩
    · rw [hstrange k hk] at hv
      exact hcanonical k v hv
    · rw [hslots slot hslot] at hv
      exact (hmoved slot hslot).canonical v hv
  · intro slot hslot
    rw [hslots slot hslot]
    exact (hmoved slot hslot).shows
  · intro slot hslot y hy
    rw [hslots slot hslot]
    exact (hmoved slot hslot).reads y hy
  · intro π v hforeign hkept hv
    cases π with
    | nil => exact absurd hforeign (not_foreign_nil _ r.start)
    | cons step rest =>
      obtain ⟨k, member, rfl, -⟩ := Json.get?_obj_eq_some hv
      rw [Json.get?_obj_key] at hv ⊢
      rcases r.strange_or_mem k with hk | ⟨slot, hslot, rfl⟩
      · rwa [hstrange k hk]
      · have hpart : ∀ x, slot.get a = some x → ∃ y, slot.get b = some y ∧
            Kept (slot.format.encode x) (slot.format.encode y) rest := by
          intro x hx
          rw [encode_eq, encode_eq, Json.kept_key, r.lookup_written hslot, hx] at hkept
          obtain ⟨new, hnew, hkept⟩ := hkept _ rfl
          rw [r.lookup_written hslot] at hnew
          obtain ⟨y, hy, rfl⟩ := Option.map_eq_some_iff.mp hnew
          exact ⟨y, hy, hkept⟩
        rw [hslots slot hslot]
        exact (hmoved slot hslot).keeps rest v ((foreign_slot hslot).mp hforeign) hpart hv

/-! ## 6. Records are formats -/

theorem canonical_encode (r : Record σ) (s : σ) : (r.encode s).Canonical := by
  refine Json.canonical_obj.mpr ⟨r.ascending_written s, fun k v hv => ?_⟩
  rcases r.strange_or_mem k with hk | ⟨slot, hslot, rfl⟩
  · have hlookup := r.lookup_written_of_strange hk s
    obtain ⟨text, -, rfl⟩ := Option.map_eq_some_iff.mp (hlookup.symm.trans hv)
    trivial
  · have hlookup := r.lookup_written hslot s
    obtain ⟨a, -, rfl⟩ := Option.map_eq_some_iff.mp (hlookup.symm.trans hv)
    exact slot.format.canonical a

/-- What is written shows what it was written from. -/
theorem shows_written {s : σ} (h : r.Fits s) : r.Shows (r.written s) s := by
  intro slot hslot
  rw [r.lookup_written hslot]
  cases hget : slot.get s with
  | none => exact (slot.default?_of_get s hget).symm
  | some a => exact Slot.shows_of_read (slot.format.read_encode (h slot hslot a hget))

theorem fixed_written (r : Record σ) (s : σ) : r.Fixed (r.written s) := by
  intro k text htext j hj
  rw [r.lookup_written_of_strange (strange_constant (Entries.mem_of_lookup htext)), htext] at hj
  exact (Option.some.inj hj).symm

theorem fits_of_shows {ms : List (String × Json)} (hms : (Json.obj ms).Canonical) {s : σ}
    (h : r.Shows ms s) : r.Fits s := by
  intro slot hslot a ha
  have hshows := h slot hslot
  rw [ha] at hshows
  cases hj : ms.lookup slot.key with
  | none =>
    rw [hj] at hshows
    exact slot.fits_default a hshows.symm
  | some j =>
    rw [hj] at hshows
    by_cases hnull : j = .null
    · obtain ⟨v, hv, hor⟩ := hshows
      rw [hnull, Decoder.nullable_ofJson_null] at hv
      rw [← Except.ok.inj hv] at hor
      exact slot.fits_default a hor
    · exact slot.format.fits_of_read ((Json.canonical_obj.mp hms).2 _ j hj)
        (Slot.shows_some hnull hshows)

theorem coveredBy_of_covers {s : σ} {ms : List (String × Json)}
    (h : Covers (.obj ms) (r.encode s)) : r.CoveredBy s ms := by
  intro slot hslot a ha
  rw [encode_eq] at h
  exact h.obj (by rw [r.lookup_written hslot, ha]; rfl)

/-- Records. -/
def format (r : Record σ) : Format σ where
  decoder := r.decoder
  encode := r.encode
  fits := r.Fits
  canonical := r.canonical_encode
  refuses_null _ h := nomatch h
  fits_of_read hj h := by
    obtain ⟨ms, rfl, -, hshows⟩ := (ofJson_iff hj).mp h
    exact fits_of_shows hj hshows
  read_encode {s} h :=
    (ofJson_iff (r.canonical_encode s)).mpr ⟨_, rfl, r.fixed_written s, shows_written h⟩
  patched {j a b} hj hread hcovers hb := by
    obtain ⟨ms, rfl, hfixed, hshows⟩ := (ofJson_iff hj).mp hread
    obtain ⟨ms', hupdated⟩ := exists_updated_members hj hshows (coveredBy_of_covers hcovers) hb
    refine ⟨.obj ms', hupdated.applied, hupdated.canonical, ?_, hupdated.keeps⟩
    refine (ofJson_iff hupdated.canonical).mpr ⟨ms', rfl, fun k text htext v hv => ?_, hupdated.shows⟩
    rw [hupdated.strange k (strange_constant (Entries.mem_of_lookup htext))] at hv
    exact hfixed k text htext v hv

/-! ## 7. What gets lost between two records -/

/-- A record keeps what its slots keep. -/
theorem kept {a b : σ} {π : Path}
    (h : ∀ slot ∈ r.slots, ∀ rest, π = .key slot.key :: rest → slot.Keeps a b rest) :
    Kept (r.encode a) (r.encode b) π := by
  refine Json.kept_obj fun k rest hπ old hold => ?_
  rcases r.strange_or_mem k with hk | ⟨slot, hslot, rfl⟩
  · have hconstant := r.lookup_written_of_strange hk
    exact ⟨old, (hconstant b).trans ((hconstant a).symm.trans hold), .refl old rest⟩
  · have hlookup := r.lookup_written hslot
    obtain ⟨x, hx, rfl⟩ := Option.map_eq_some_iff.mp ((hlookup a).symm.trans hold)
    obtain ⟨y, hy, hkept⟩ := h slot hslot rest hπ x hx
    exact ⟨_, (hlookup b).trans (by rw [hy]; rfl), hkept⟩

end Record

end InjectionWebhook
