/-
# Formats

A `Format` is a decoder and an encoder of one type, together with the laws that tie them.  Beside the
round trip there is a law about patches.  A document that a value was read from can say more than the
value does: it may have members nobody asked for, and `null` where nothing is meant.  The patch
between two values is made without knowing it, and still it must do to the document what it does to
the values (`Format.patched`): it can be carried out, the second value is read from what comes out,
and what no value is ever written with stays (`Carried`).

Here are the formats of scalars, and of lists and maps of what has a format (`Format.scalar`,
`Format.list`, `Format.dict`).
-/
import InjectionWebhook.Proofs.Reading

namespace InjectionWebhook

/-! ## 1. Related options -/

section

variable {α β : Type} {R : α → β → Prop} {x? : Option α} {y? : Option β}

theorem exists_of_rel_left {x : α} (h : Option.Rel R x? y?) (hx : x? = some x) :
    ∃ y, y? = some y ∧ R x y := by
  subst hx
  cases h with
  | some h => exact ⟨_, rfl, h⟩

theorem exists_of_rel_right {y : β} (h : Option.Rel R x? y?) (hy : y? = some y) :
    ∃ x, x? = some x ∧ R x y := by
  subst hy
  cases h with
  | some h => exact ⟨_, rfl, h⟩

theorem rel_imp {R' : α → β → Prop} (hR : ∀ x y, R x y → R' x y) (h : Option.Rel R x? y?) :
    Option.Rel R' x? y? := by
  cases h with
  | none => exact .none
  | some h => exact .some (hR _ _ h)

/-- Related lists are related at every position. -/
theorem rel_getElem? {l : List α} {l' : List β} (h : List.Forall₂ R l l') (n : Nat) :
    Option.Rel R l[n]? l'[n]? := by
  induction h generalizing n with
  | nil => exact .none
  | cons hhead _ ih =>
    cases n with
    | zero => exact .some hhead
    | succ n => exact ih n

theorem forall₂_of_getElem? {l : List α} : ∀ {l' : List β},
    (∀ n : Nat, Option.Rel R l[n]? l'[n]?) → List.Forall₂ R l l' := by
  induction l with
  | nil =>
    intro l' h
    cases l' with
    | nil => exact .nil
    | cons y l' => exact absurd (h 0) (by simp)
  | cons x l ih =>
    intro l' h
    cases l' with
    | nil => exact absurd (h 0) (by simp)
    | cons y l' => exact .cons (by simpa using h 0) (ih fun n => by simpa using h (n + 1))

end

namespace Json

/-! ## 2. Two documents side by side -/

/-- Wherever the second document says something, the first one says something other than `null`. -/
def Covers (j w : Json) : Prop :=
  ∀ π : Path, (w.get? π).isSome → ∃ v, j.get? π = some v ∧ v ≠ .null

/-- On the way to a place nothing gets lost between two documents. -/
def Kept (left right : Json) (π : Path) : Prop :=
  ∀ ρ, ρ <+: π → (left.get? ρ).isSome → (right.get? ρ).isSome

theorem Covers.obj {ms l : List (String × Json)} (h : Covers (.obj ms) (.obj l)) {k : String}
    {w : Json} (hw : l.lookup k = some w) :
    ∃ v, ms.lookup k = some v ∧ v ≠ .null ∧ Covers v w := by
  obtain ⟨v, hv, hne⟩ := h [.key k] (by simp [hw])
  have hlookup : ms.lookup k = some v := by simpa using hv
  refine ⟨v, hlookup, hne, fun π hπ => ?_⟩
  obtain ⟨v', hv', hne'⟩ := h (.key k :: π) (by simpa [hw] using hπ)
  exact ⟨v', by simpa [hlookup] using hv', hne'⟩

theorem Covers.arr {items l : List Json} (h : Covers (.arr items) (.arr l)) {i : Nat} {w : Json}
    (hw : l[i]? = some w) : ∃ v, items[i]? = some v ∧ v ≠ .null ∧ Covers v w := by
  obtain ⟨v, hv, hne⟩ := h [.index i] (by simp [hw])
  have hitem : items[i]? = some v := by simpa using hv
  refine ⟨v, hitem, hne, fun π hπ => ?_⟩
  obtain ⟨v', hv', hne'⟩ := h (.index i :: π) (by simpa [hw] using hπ)
  exact ⟨v', by simpa [hitem] using hv', hne'⟩

/-- An object covers another one member by member. -/
theorem covers_obj {ms l : List (String × Json)}
    (h : ∀ m ∈ l, ∃ v, ms.lookup m.1 = some v ∧ v ≠ .null ∧ Covers v m.2) :
    Covers (.obj ms) (.obj l) := by
  intro π hπ
  cases π with
  | nil => exact ⟨_, get?_nil _, Json.noConfusion⟩
  | cons step rest =>
    obtain ⟨w', hw'⟩ := Option.isSome_iff_exists.mp hπ
    obtain ⟨k, w, rfl, hw, hrest⟩ := get?_obj_eq_some hw'
    obtain ⟨v, hv, -, hcovers⟩ := h (k, w) (Entries.mem_of_lookup hw)
    obtain ⟨v', hv', hne⟩ := hcovers rest (by rw [hrest]; rfl)
    exact ⟨v', by rw [get?_obj_key, hv, Option.bind_some, hv'], hne⟩

/-- A list covers another one element by element. -/
theorem covers_arr {items l : List Json}
    (h : List.Forall₂ (fun v w => Covers v w) items l) : Covers (.arr items) (.arr l) := by
  intro π hπ
  cases π with
  | nil => exact ⟨_, get?_nil _, Json.noConfusion⟩
  | cons step rest =>
    obtain ⟨w', hw'⟩ := Option.isSome_iff_exists.mp hπ
    obtain ⟨i, w, rfl, hw, hrest⟩ := get?_arr_eq_some hw'
    obtain ⟨v, hv, hcovers⟩ := exists_of_rel_right (rel_getElem? h i) hw
    obtain ⟨v', hv', hne⟩ := hcovers rest (by rw [hrest]; rfl)
    exact ⟨v', by rw [get?_arr_index, hv, Option.bind_some, hv'], hne⟩

theorem covers_of_isScalar {j w : Json} (hj : j ≠ .null) (hw : w.isScalar = true) : Covers j w := by
  intro π hπ
  cases π with
  | nil => exact ⟨j, get?_nil j, hj⟩
  | cons step rest =>
    rw [get?_of_isScalar hw] at hπ
    exact absurd hπ (by simp)

theorem Kept.refl (j : Json) (π : Path) : Kept j j π := fun _ _ h => h

@[simp] theorem kept_nil (left right : Json) : Kept left right [] := by
  intro ρ hρ _
  rw [List.prefix_nil.mp hρ]
  simp

/-- Inside objects the way goes from member to member. -/
theorem kept_key {l r : List (String × Json)} {k : String} {π : Path} :
    Kept (.obj l) (.obj r) (.key k :: π) ↔
      ∀ old, l.lookup k = some old → ∃ new, r.lookup k = some new ∧ Kept old new π := by
  constructor
  · intro h old hold
    have hnew := h [.key k] ⟨π, rfl⟩ (by simp [hold])
    obtain ⟨new, hnew⟩ := Option.isSome_iff_exists.mp hnew
    have hlookup : r.lookup k = some new := by simpa using hnew
    refine ⟨new, hlookup, fun ρ hρ hthere => ?_⟩
    have hthere' := h (.key k :: ρ) (List.prefix_cons_inj _ |>.mpr hρ) (by simpa [hold] using hthere)
    simpa [hlookup] using hthere'
  · intro h ρ hρ hthere
    rcases List.prefix_cons_iff.mp hρ with rfl | ⟨ρ', rfl, hρ'⟩
    · simp
    · cases hold : l.lookup k with
      | none => simp [hold] at hthere
      | some old =>
        obtain ⟨new, hnew, hkept⟩ := h old hold
        simpa [hnew] using hkept ρ' hρ' (by simpa [hold] using hthere)

/-- Inside lists the way goes from element to element. -/
theorem kept_index {l r : List Json} {i : Nat} {π : Path} :
    Kept (.arr l) (.arr r) (.index i :: π) ↔
      ∀ old, l[i]? = some old → ∃ new, r[i]? = some new ∧ Kept old new π := by
  constructor
  · intro h old hold
    have hnew := h [.index i] ⟨π, rfl⟩ (by simp [hold])
    obtain ⟨new, hnew⟩ := Option.isSome_iff_exists.mp hnew
    have hitem : r[i]? = some new := by simpa using hnew
    refine ⟨new, hitem, fun ρ hρ hthere => ?_⟩
    have hthere' :=
      h (.index i :: ρ) (List.prefix_cons_inj _ |>.mpr hρ) (by simpa [hold] using hthere)
    simpa [hitem] using hthere'
  · intro h ρ hρ hthere
    rcases List.prefix_cons_iff.mp hρ with rfl | ⟨ρ', rfl, hρ'⟩
    · simp
    · cases hold : l[i]? with
      | none => simp [hold] at hthere
      | some old =>
        obtain ⟨new, hnew, hkept⟩ := h old hold
        simpa [hnew] using hkept ρ' hρ' (by simpa [hold] using hthere)

/-- A scalar has nothing to lose. -/
theorem kept_of_isScalar {left : Json} (h : left.isScalar = true) (right : Json) (π : Path) :
    Kept left right π := by
  intro ρ _ hthere
  cases ρ with
  | nil => simp
  | cons step rest =>
    rw [get?_of_isScalar h] at hthere
    exact absurd hthere (by simp)

variable {α : Type} {encode : α → Json}

/-- An object keeps what its members keep. -/
theorem kept_obj {l r : List (String × Json)} {π : Path}
    (h : ∀ k rest, π = .key k :: rest → ∀ old, l.lookup k = some old →
      ∃ new, r.lookup k = some new ∧ Kept old new rest) :
    Kept (.obj l) (.obj r) π := by
  rcases π with _ | ⟨⟨k⟩ | ⟨i⟩, rest⟩
  · exact kept_nil _ _
  · exact kept_key.mpr (h k rest rfl)
  · intro ρ hρ hthere
    rcases List.prefix_cons_iff.mp hρ with rfl | ⟨ρ', rfl, -⟩
    · simp
    · exact absurd hthere (by simp [get?])

/-- A list keeps what its elements keep. -/
theorem kept_ofList {as bs : List α} {π : Path}
    (h : ∀ i rest, π = .index i :: rest → ∀ a, as[i]? = some a →
      ∃ b, bs[i]? = some b ∧ Kept (encode a) (encode b) rest) :
    Kept (ofList encode as) (ofList encode bs) π := by
  rcases π with _ | ⟨⟨k⟩ | ⟨i⟩, rest⟩
  · exact kept_nil _ _
  · intro ρ hρ hthere
    rcases List.prefix_cons_iff.mp hρ with rfl | ⟨ρ', rfl, -⟩
    · simp
    · exact absurd hthere (by simp [ofList, get?])
  · refine kept_index.mpr fun old hold => ?_
    rw [List.getElem?_map] at hold
    obtain ⟨a, ha, rfl⟩ := Option.map_eq_some_iff.mp hold
    obtain ⟨b, hb, hkept⟩ := h i rest rfl a ha
    exact ⟨encode b, by rw [List.getElem?_map, hb, Option.map_some], hkept⟩

/-- A longer list keeps all. -/
theorem kept_ofList_of_prefix {as bs : List α} (h : as <+: bs) (π : Path) :
    Kept (ofList encode as) (ofList encode bs) π := by
  refine kept_ofList fun i rest _ a ha => ⟨a, ?_, .refl _ _⟩
  obtain ⟨hi, -⟩ := List.getElem?_eq_some_iff.mp ha
  obtain ⟨more, rfl⟩ := h
  rw [List.getElem?_append_left hi, ha]

end Json

open Json (Path Covers Kept)

/-! ## 3. Formats -/

section

variable {α : Type}

/-- No value is written with anything at the place. -/
def Foreign (encode : α → Json) (π : Path) : Prop := ∀ a, (encode a).get? π = none

/-- The patch from one value to another, carried out on a document of the first. -/
structure Carried (decoder : Decoder α) (encode : α → Json) (a b : α) (j j' : Json) : Prop where
  applied : (Json.diff (encode a) (encode b)).applyTo? j = some j'
  canonical : j'.Canonical
  reads : decoder.ofJson j' = .ok b
  /-- What no value is written with stays, unless its surroundings are taken away. -/
  keeps : ∀ π v, Foreign encode π → Kept (encode a) (encode b) π → j.get? π = some v →
    j'.get? π = some v

/-- A decoder and an encoder that belong together. -/
structure Format (α : Type) where
  decoder : Decoder α
  encode : α → Json
  /-- The value can be read back. -/
  fits : α → Prop
  canonical : ∀ a, (encode a).Canonical
  refuses_null : ∀ a, decoder.ofJson .null ≠ .ok a
  fits_of_read : ∀ {j a}, j.Canonical → decoder.ofJson j = .ok a → fits a
  read_encode : ∀ {a}, fits a → decoder.ofJson (encode a) = .ok a
  patched : ∀ {j a b}, j.Canonical → decoder.ofJson j = .ok a → Covers j (encode a) → fits b →
    ∃ j', Carried decoder encode a b j j'

theorem not_foreign_nil (encode : α → Json) (a : α) : ¬ Foreign encode [] := by
  intro h
  exact absurd (h a) (by simp)

namespace Format

theorem encode_ne_null (f : Format α) {a : α} (h : f.fits a) : f.encode a ≠ .null := by
  intro hnull
  exact f.refuses_null a (hnull ▸ f.read_encode h)

/-! ## 4. Scalars -/

/-- What a decoder and an encoder of scalars are to each other. -/
structure Scalar (decoder : Decoder α) (encode : α → Json) (fits : α → Prop) : Prop where
  encode_isScalar : ∀ a, (encode a).isScalar = true
  isScalar_of_read : ∀ {j a}, decoder.ofJson j = .ok a → j.isScalar = true
  refuses_null : ∀ a, decoder.ofJson .null ≠ .ok a
  fits_of_read : ∀ {j a}, decoder.ofJson j = .ok a → fits a
  read_encode : ∀ {a}, fits a → decoder.ofJson (encode a) = .ok a

/-- A scalar stays or is replaced as a whole. -/
theorem Scalar.patched {decoder : Decoder α} {encode : α → Json} {fits : α → Prop}
    (h : Scalar decoder encode fits) {j : Json} {a b : α} (hj : j.Canonical)
    (hread : decoder.ofJson j = .ok a) (hb : fits b) : ∃ j', Carried decoder encode a b j j' := by
  have hkeeps : ∀ (j' : Json) π v, Foreign encode π → Kept (encode a) (encode b) π →
      j.get? π = some v → j'.get? π = some v := by
    intro j' π v hforeign _ hv
    cases π with
    | nil => exact absurd hforeign (not_foreign_nil encode a)
    | cons step rest =>
      rw [Json.get?_of_isScalar (h.isScalar_of_read hread)] at hv
      exact absurd hv (by simp)
  rcases Json.diff_of_isScalar (h.encode_isScalar b) (encode a) with ⟨hsame, hdiff⟩ | hdiff
  · have hab := h.read_encode (h.fits_of_read hread)
    rw [hsame, h.read_encode hb] at hab
    obtain rfl := Except.ok.inj hab
    exact ⟨j, by rw [hdiff, Json.Patch.applyTo?_nil], hj, hread, hkeeps j⟩
  · exact ⟨encode b, by rw [hdiff]; rfl, Json.canonical_of_isScalar (h.encode_isScalar b),
      h.read_encode hb, hkeeps _⟩

/-- Scalars. -/
def scalar (decoder : Decoder α) (encode : α → Json) (fits : α → Prop)
    (h : Scalar decoder encode fits) : Format α where
  decoder
  encode
  fits
  canonical a := Json.canonical_of_isScalar (h.encode_isScalar a)
  refuses_null := h.refuses_null
  fits_of_read _ := h.fits_of_read
  read_encode := h.read_encode
  patched hj hread _ := h.patched hj hread

/-! ## 5. Parts -/

/-- A part of a document is given a value.  There may have been a value before. -/
structure Updated (f : Format α) (a? : Option α) (b : α) (before? : Option Json) (after : Json) :
    Prop where
  applied : Json.patchedMember (a?.map f.encode) (some (f.encode b)) before? = some after
  canonical : after.Canonical
  reads : f.decoder.ofJson after = .ok b
  keeps : ∀ {a before π v}, a? = some a → before? = some before → Foreign f.encode π →
    Kept (f.encode a) (f.encode b) π → before.get? π = some v → after.get? π = some v

theorem Updated.patches {f : Format α} {a? : Option α} {b : α} {before? : Option Json}
    {after : Json} (h : f.Updated a? b before? after) :
    Json.Patches (a?.map f.encode) (some (f.encode b)) before? := by
  rintro old new hold ⟨⟩
  have happlied := h.applied
  rw [hold] at happlied
  obtain ⟨v, hv, hv'⟩ := Option.bind_eq_some_iff.mp happlied
  exact .inr ⟨v, after, hv, hv'⟩

theorem exists_updated (f : Format α) {a? : Option α} {b : α} {before? : Option Json}
    (hbefore : ∀ a, a? = some a → ∃ before, before? = some before ∧ before.Canonical ∧
      f.decoder.ofJson before = .ok a ∧ Covers before (f.encode a)) (hb : f.fits b) :
    ∃ after, f.Updated a? b before? after := by
  cases a? with
  | none =>
    exact ⟨f.encode b, rfl, f.canonical b, f.read_encode hb, fun h => absurd h (by simp)⟩
  | some a =>
    obtain ⟨before, rfl, hcanonical, hread, hcovers⟩ := hbefore a rfl
    obtain ⟨after, hafter⟩ := f.patched hcanonical hread hcovers hb
    refine ⟨after, hafter.applied, hafter.canonical, hafter.reads, ?_⟩
    rintro _ _ π v ⟨⟩ ⟨⟩
    exact hafter.keeps π v

/-! ## 6. Lists -/

/-- What is foreign to lists is what is foreign to their elements. -/
theorem foreign_index {encode : α → Json} {i : Nat} {π : Path} :
    Foreign (Json.ofList encode) (.index i :: π) ↔ Foreign encode π := by
  constructor
  · intro h a
    have hnone := h (List.replicate (i + 1) a)
    simpa [Json.ofList] using hnone
  · intro h as
    rw [Json.ofList, Json.get?_arr_index, List.getElem?_map]
    cases as[i]? with
    | none => rfl
    | some a => exact h a

/-- Elements are patched one by one. -/
theorem exists_updated_items (f : Format α) {items : List Json} {as bs : List α}
    (hcanonical : ∀ item ∈ items, item.Canonical)
    (hread : List.Forall₂ (fun item a => f.decoder.ofJson item = .ok a) items as)
    (hcovers : Covers (.arr items) (.ofList f.encode as)) (hbs : ∀ b ∈ bs, f.fits b) :
    ∃ items', (Json.diff (.ofList f.encode as) (.ofList f.encode bs)).applyTo? (.arr items) =
        some (.arr items') ∧
      ∀ n : Nat, Option.Rel (fun after b => f.Updated as[n]? b items[n]? after)
        items'[n]? bs[n]? := by
  have hupdated : ∀ (n : Nat) b, bs[n]? = some b → ∃ after, f.Updated as[n]? b items[n]? after := by
    intro n b hb
    refine f.exists_updated (fun a ha => ?_) (hbs b (List.mem_of_getElem? hb))
    obtain ⟨item, hitem, hread⟩ := exists_of_rel_right (rel_getElem? hread n) ha
    obtain ⟨v, hv, -, hvcovers⟩ := hcovers.arr (i := n) (w := f.encode a) (by simp [ha])
    obtain rfl := Option.some.inj (hitem.symm.trans hv)
    exact ⟨item, hitem, hcanonical item (List.mem_of_getElem? hitem), hread, hvcovers⟩
  have hboth : ∀ (n : Nat) old new item, (as.map f.encode)[n]? = some old →
      (bs.map f.encode)[n]? = some new → items[n]? = some item →
      ∃ item', (Json.diff old new).applyTo? item = some item' := by
    intro n old new item hold hnew hitem
    rw [List.getElem?_map] at hold hnew
    obtain ⟨b, hb, rfl⟩ := Option.map_eq_some_iff.mp hnew
    obtain ⟨after, hafter⟩ := hupdated n b hb
    have happlied := hafter.applied
    rw [hold, hitem] at happlied
    exact ⟨after, happlied⟩
  obtain ⟨items', happly, hlength, hitems'⟩ :=
    Json.applyTo?_diff_arr (by rw [List.length_map, hread.length_eq]) hboth
  refine ⟨items', happly, fun n => ?_⟩
  rw [List.length_map] at hlength
  cases hb : bs[n]? with
  | none =>
    have hnone : items'[n]? = none := by
      rw [List.getElem?_eq_none_iff] at hb ⊢
      rwa [hlength]
    rw [hnone]
    exact .none
  | some b =>
    obtain ⟨after, hafter⟩ := hupdated n b hb
    have hitem' := hitems' n (f.encode b) (by simp [hb])
    rw [List.getElem?_map, hafter.applied] at hitem'
    rw [hitem']
    exact .some hafter

theorem list_patched (f : Format α) {j : Json} {as bs : List α} (hj : j.Canonical)
    (hread : (Decoder.list f.decoder).ofJson j = .ok as)
    (hcovers : Covers j (.ofList f.encode as)) (hbs : ∀ b ∈ bs, f.fits b) :
    ∃ j', Carried (.list f.decoder) (.ofList f.encode) as bs j j' := by
  obtain ⟨items, rfl, hitems⟩ := Decoder.list_ofJson_iff.mp hread
  obtain ⟨items', happly, hupdated⟩ :=
    f.exists_updated_items (Json.canonical_arr.mp hj) hitems hcovers hbs
  refine ⟨.arr items', happly, ?_, ?_, ?_⟩
  · rw [Json.canonical_arr]
    intro item hitem
    obtain ⟨n, hn⟩ := List.mem_iff_getElem?.mp hitem
    obtain ⟨b, -, hafter⟩ := exists_of_rel_left (hupdated n) hn
    exact hafter.canonical
  · refine Decoder.list_ofJson_iff.mpr ⟨items', rfl, forall₂_of_getElem? fun n => ?_⟩
    exact rel_imp (fun _ _ h => h.reads) (hupdated n)
  · intro π v hforeign hkept hv
    cases π with
    | nil => exact absurd hforeign (not_foreign_nil _ [])
    | cons step rest =>
      obtain ⟨i, item, rfl, hitem, hv⟩ := Json.get?_arr_eq_some hv
      obtain ⟨a, ha, -⟩ := exists_of_rel_left (rel_getElem? hitems i) hitem
      obtain ⟨new, hnew, hkept⟩ := Json.kept_index.mp hkept (f.encode a) (by simp [ha])
      rw [List.getElem?_map] at hnew
      obtain ⟨b, hb, rfl⟩ := Option.map_eq_some_iff.mp hnew
      obtain ⟨after, hitem', hafter⟩ := exists_of_rel_right (hupdated i) hb
      rw [Json.get?_arr_index, hitem', Option.bind_some]
      exact hafter.keeps ha hitem (foreign_index.mp hforeign) hkept hv

/-- Lists. -/
def list (f : Format α) : Format (List α) where
  decoder := .list f.decoder
  encode := .ofList f.encode
  fits as := ∀ a ∈ as, f.fits a
  canonical as := by
    rw [Json.ofList, Json.canonical_arr, List.forall_mem_map]
    exact fun a _ => f.canonical a
  refuses_null _ h := nomatch h
  fits_of_read hj h := by
    obtain ⟨items, rfl, hitems⟩ := Decoder.list_ofJson_iff.mp h
    intro a ha
    obtain ⟨n, hn⟩ := List.mem_iff_getElem?.mp ha
    obtain ⟨item, hitem, hread⟩ := exists_of_rel_right (rel_getElem? hitems n) hn
    exact f.fits_of_read (Json.canonical_arr.mp hj item (List.mem_of_getElem? hitem)) hread
  read_encode h := by
    refine Decoder.list_ofJson_iff.mpr ⟨_, rfl, ?_⟩
    rw [List.forall₂_map_left_iff, List.forall₂_same]
    exact fun a ha => f.read_encode (h a ha)
  patched := f.list_patched

/-! ## 7. Maps -/

theorem lookup_ofDict (encode : α → Json) (d : Dict α) (k : String) :
    (d.entries.map fun e => (e.1, encode e.2)).lookup k = (d.get? k).map encode :=
  Entries.lookup_map encode d.entries k

/-- A map keeps what its values keep. -/
theorem kept_ofDict {encode : α → Json} {a b : Dict α} {π : Path}
    (h : ∀ k rest, π = .key k :: rest → ∀ x, a.get? k = some x →
      ∃ y, b.get? k = some y ∧ Kept (encode x) (encode y) rest) :
    Kept (.ofDict encode a) (.ofDict encode b) π := by
  refine Json.kept_obj fun k rest hπ old hold => ?_
  rw [lookup_ofDict] at hold
  obtain ⟨x, hx, rfl⟩ := Option.map_eq_some_iff.mp hold
  obtain ⟨y, hy, hkept⟩ := h k rest hπ x hx
  exact ⟨encode y, by rw [lookup_ofDict, hy, Option.map_some], hkept⟩

/-- What is foreign to all maps is foreign to their values. -/
theorem foreign_entry {encode : α → Json} {k : String} {π : Path}
    (h : Foreign (Json.ofDict encode) (.key k :: π)) : Foreign encode π := by
  intro a
  have hnone := h (Dict.empty.insert k a)
  rw [Json.ofDict, Json.get?_obj_key, lookup_ofDict, Dict.get?_insert, if_pos rfl] at hnone
  exact hnone

/-- Values are patched key by key, and keys come and go. -/
theorem exists_updated_entries (f : Format α) {ms : List (String × Json)} {a b : Dict α}
    (hms : (Json.obj ms).Canonical)
    (hread : ∀ k, Option.Rel (fun v x => f.decoder.ofJson v = .ok x) (ms.lookup k) (a.get? k))
    (hcovers : Covers (.obj ms) (.ofDict f.encode a))
    (hb : ∀ k y, b.get? k = some y → f.fits y) :
    ∃ ms', (Json.diff (.ofDict f.encode a) (.ofDict f.encode b)).applyTo? (.obj ms) =
        some (.obj ms') ∧ Entries.Ascending ms' ∧
      ∀ k, Option.Rel (fun after y => f.Updated (a.get? k) y (ms.lookup k) after)
        (ms'.lookup k) (b.get? k) := by
  obtain ⟨hascending, hcanonical⟩ := Json.canonical_obj.mp hms
  have hupdated : ∀ k y, b.get? k = some y →
      ∃ after, f.Updated (a.get? k) y (ms.lookup k) after := by
    intro k y hy
    refine f.exists_updated (fun x hx => ?_) (hb k y hy)
    obtain ⟨v, hv, hread⟩ := exists_of_rel_right (hread k) hx
    obtain ⟨w, hw, -, hwcovers⟩ := hcovers.obj (k := k) (w := f.encode x)
      (by rw [lookup_ofDict, hx]; rfl)
    obtain rfl := Option.some.inj (hv.symm.trans hw)
    exact ⟨v, hv, hcanonical k v hv, hread, hwcovers⟩
  have hboth : ∀ k, Json.Patches ((a.get? k).map f.encode) ((b.get? k).map f.encode)
      (ms.lookup k) := by
    intro k
    cases hy : b.get? k with
    | none => exact fun old new _ hnew => absurd hnew (by simp)
    | some y =>
      obtain ⟨after, hafter⟩ := hupdated k y hy
      exact hafter.patches
  have hthere : ∀ k, ((a.get? k).map f.encode).isSome → (ms.lookup k).isSome := by
    intro k hk
    rw [Option.isSome_map] at hk
    obtain ⟨x, hx⟩ := Option.isSome_iff_exists.mp hk
    obtain ⟨v, hv, -⟩ := exists_of_rel_right (hread k) hx
    rw [hv]
    rfl
  obtain ⟨ms', happly, hascending', hlookup⟩ := Json.applyTo?_diff_obj
    (Entries.ascending_map f.encode a.ascending) (Entries.ascending_map f.encode b.ascending)
    hascending
    (fun k => by rw [lookup_ofDict, lookup_ofDict]; exact hboth k)
    (fun k hk _ => hthere k (by rwa [lookup_ofDict] at hk))
  refine ⟨ms', happly, hascending', fun k => ?_⟩
  rw [hlookup k, lookup_ofDict, lookup_ofDict]
  cases hy : b.get? k with
  | some y =>
    obtain ⟨after, hafter⟩ := hupdated k y hy
    rw [Option.map_some, hafter.applied]
    exact .some hafter
  | none =>
    have hk := hread k
    cases hx : a.get? k with
    | some x => exact .none
    | none =>
      rw [hx] at hk
      cases hv : ms.lookup k with
      | none => exact .none
      | some v =>
        rw [hv] at hk
        exact absurd hk (by simp)

theorem dict_patched (f : Format α) {j : Json} {a b : Dict α} (hj : j.Canonical)
    (hread : (Decoder.dict f.decoder).ofJson j = .ok a) (hcovers : Covers j (.ofDict f.encode a))
    (hb : ∀ k y, b.get? k = some y → f.fits y) :
    ∃ j', Carried (.dict f.decoder) (.ofDict f.encode) a b j j' := by
  obtain ⟨ms, rfl, hms⟩ := (Decoder.dict_ofJson_iff hj).mp hread
  obtain ⟨ms', happly, hascending', hupdated⟩ := f.exists_updated_entries hj hms hcovers hb
  have hj' : (Json.obj ms').Canonical := by
    refine Json.canonical_obj.mpr ⟨hascending', fun k v hv => ?_⟩
    obtain ⟨y, -, hafter⟩ := exists_of_rel_left (hupdated k) hv
    exact hafter.canonical
  refine ⟨.obj ms', happly, hj', ?_, ?_⟩
  · refine (Decoder.dict_ofJson_iff hj').mpr ⟨ms', rfl, fun k => ?_⟩
    exact rel_imp (fun _ _ h => h.reads) (hupdated k)
  · intro π v hforeign hkept hv
    cases π with
    | nil => exact absurd hforeign (not_foreign_nil _ .empty)
    | cons step rest =>
      obtain ⟨k, member, rfl, hmember, hv⟩ := Json.get?_obj_eq_some hv
      obtain ⟨x, hx, -⟩ := exists_of_rel_left (hms k) hmember
      obtain ⟨new, hnew, hkept⟩ := Json.kept_key.mp hkept (f.encode x)
        (by rw [lookup_ofDict, hx]; rfl)
      rw [lookup_ofDict] at hnew
      obtain ⟨y, hy, rfl⟩ := Option.map_eq_some_iff.mp hnew
      obtain ⟨after, hlookup, hafter⟩ := exists_of_rel_right (hupdated k) hy
      rw [Json.get?_obj_key, hlookup, Option.bind_some]
      exact hafter.keeps hx hmember (foreign_entry hforeign) hkept hv

theorem canonical_ofDict (f : Format α) (a : Dict α) : (Json.ofDict f.encode a).Canonical := by
  refine Json.canonical_obj.mpr ⟨Entries.ascending_map f.encode a.ascending, fun k v hv => ?_⟩
  rw [lookup_ofDict] at hv
  obtain ⟨x, -, rfl⟩ := Option.map_eq_some_iff.mp hv
  exact f.canonical x

/-- Maps. -/
def dict (f : Format α) : Format (Dict α) where
  decoder := .dict f.decoder
  encode := .ofDict f.encode
  fits a := ∀ k x, a.get? k = some x → f.fits x
  canonical := f.canonical_ofDict
  refuses_null _ h := nomatch h
  fits_of_read hj h := by
    obtain ⟨ms, rfl, hms⟩ := (Decoder.dict_ofJson_iff hj).mp h
    intro k x hx
    obtain ⟨v, hv, hread⟩ := exists_of_rel_right (hms k) hx
    exact f.fits_of_read ((Json.canonical_obj.mp hj).2 k v hv) hread
  read_encode {a} h := by
    refine (Decoder.dict_ofJson_iff (f.canonical_ofDict a)).mpr ⟨_, rfl, fun k => ?_⟩
    rw [lookup_ofDict]
    cases hx : a.get? k with
    | none => exact .none
    | some x => exact .some (f.read_encode (h k x hx))
  patched := f.dict_patched

end Format

end

end InjectionWebhook
