/-
# Records clause by clause

A `Codec` is a decoder and an encoder that undo each other, wherever it is read what was written.
A `Clause` is one part of a record: how it is read and written, and what it is where nothing is
given.  A part that is left out on writing has to be what absence means, or it would come back as
something else; this is asked of every clause (`Clause.eq_start`), whichever discipline it follows:

* `Clause.always`: always written;
* `Clause.skipping`: left out where it is what absence means;
* `Clause.optional`: left out where there is none.

A `Sheet` is a list of clauses that do not get in each other's way and together say all about a
value.  `Sheet.shows_of_decoder` says how any document in any of the forms of a record is read,
clause by clause, and `Sheet.codec` that a record comes back.
-/
import InjectionWebhook.Proofs.RecordFormats
import InjectionWebhook.Proofs.Scanning

namespace InjectionWebhook

open Entries (Ascending)
open Json (Written)

/-! ## 1. Codecs -/

namespace Json

theorem plain_ofList {α : Type} {encode : α → Json} {n : Nat} {as : List α}
    (h : ∀ a ∈ as, (encode a).Plain n) : (ofList encode as).Plain (n + 1) := by
  refine .arr fun item hitem => ?_
  obtain ⟨a, ha, rfl⟩ := List.mem_map.mp hitem
  exact h a ha

theorem plain_ofDict {α : Type} {encode : α → Json} {n : Nat} (h : ∀ a, (encode a).Plain n)
    (d : Dict α) : (ofDict encode d).Plain (n + 1) := by
  refine .obj fun m hm => ?_
  obtain ⟨e, -, rfl⟩ := List.mem_map.mp hm
  exact h e.2

theorem plain_record {n : Nat} {ms : List (String × Option Json)}
    (h : ∀ m ∈ ms, ∀ j, m.2 = some j → j.Plain n) : (record ms).Plain (n + 1) := by
  refine .obj fun e he => ?_
  obtain ⟨m, hm, hkept⟩ := List.mem_filterMap.mp he
  obtain ⟨j, hj, rfl⟩ := Option.map_eq_some_iff.mp hkept
  exact h m hm j hj

end Json

/-- A decoder and an encoder that undo each other, in documents and in texts. -/
structure Codec (α : Type) where
  decoder : Decoder α
  encode : α → Json
  /-- So many containers are written one inside the other at most. -/
  depth : Nat
  read_encode : ∀ a, decoder.ofJson (encode a) = .ok a
  encode_ne_null : ∀ a, encode a ≠ .null
  placeless : decoder.Placeless
  plain : ∀ a, (encode a).Plain depth

namespace Codec

variable {α : Type}

/-- Formats of which every value can be read back. -/
def ofFormat (f : Format α) (depth : Nat) (fits : ∀ a, f.fits a) (placeless : f.decoder.Placeless)
    (plain : ∀ a, (f.encode a).Plain depth) : Codec α where
  decoder := f.decoder
  encode := f.encode
  depth
  read_encode a := f.read_encode (fits a)
  encode_ne_null a := f.encode_ne_null (fits a)
  placeless
  plain

section

variable {σ : Type} {r : Record σ} {n : Nat}

theorem plain_encode_record (h : ∀ slot ∈ r.slots, ∀ x, (slot.format.encode x).Plain n) (s : σ) :
    (r.encode s).Plain (n + 1) := by
  refine Json.plain_record fun m hm j hj => ?_
  rcases List.mem_append.mp hm with hm | hm
  · obtain ⟨c, -, rfl⟩ := List.mem_map.mp hm
    exact Option.some.inj hj ▸ .str n c.2
  · obtain ⟨slot, hslot, rfl⟩ := List.mem_map.mp hm
    obtain ⟨x, -, rfl⟩ := Option.map_eq_some_iff.mp hj
    exact h slot hslot x

theorem placeless_record (h : ∀ slot ∈ r.slots, slot.format.decoder.Placeless) :
    r.decoder.Placeless := by
  refine Decoder.placeless_object fun f hf => ?_
  rcases List.mem_append.mp hf with hf | hf
  · obtain ⟨c, -, rfl⟩ := List.mem_map.mp hf
    exact Field.placeless_constant c.1 c.2
  · obtain ⟨slot, hslot, rfl⟩ := List.mem_map.mp hf
    exact Field.placeless_plain (Decoder.placeless_nullable (h slot hslot))

/-- Records of slots of which every value can be read back. -/
def ofRecord (r : Record σ) (depth : Nat) (fits : ∀ s, r.Fits s)
    (placeless : ∀ slot ∈ r.slots, slot.format.decoder.Placeless)
    (plain : ∀ slot ∈ r.slots, ∀ x, (slot.format.encode x).Plain depth) : Codec σ :=
  .ofFormat r.format (depth + 1) fits (placeless_record placeless) (plain_encode_record plain)

end

/-- What was written comes back out of its text. -/
theorem read_render (c : Codec α) (hdepth : c.depth ≤ Json.Scan.maxDepth) (a : α) :
    c.decoder.ofText (c.encode a).render = .ok a :=
  Decoder.ofText_render c.placeless ((c.plain a).mono hdepth) (c.read_encode a)

end Codec

/-! ## 2. Clauses -/

/-- One part of a record. -/
structure Clause (σ : Type) where
  key : String
  Part : Type
  decoder : Decoder Part
  /-- What is written, unless the part is left out. -/
  write : Part → Option Json
  depth : Nat
  /-- What absence means. -/
  start : Part
  /-- It must be there. -/
  required : Bool
  get : σ → Part
  put : Part → σ → σ
  get_put : ∀ v s, get (put v s) = v
  read_write : ∀ {v j}, write v = some j → decoder.ofJson j = .ok v
  eq_start : ∀ {v}, write v = none → v = start
  write_required : required = true → ∀ v, (write v).isSome
  placeless : decoder.Placeless
  plain : ∀ {v j}, write v = some j → j.Plain depth

namespace Clause

variable {σ α : Type}

/-- A part that is always written. -/
def always (key : String) (codec : Codec α) (start : α) (get : σ → α) (put : α → σ → σ)
    (required : Bool := false) (get_put : ∀ v s, get (put v s) = v := by intros; rfl) :
    Clause σ where
  key
  Part := α
  decoder := codec.decoder
  write v := some (codec.encode v)
  depth := codec.depth
  start
  required
  get
  put
  get_put
  read_write h := Option.some.inj h ▸ codec.read_encode _
  eq_start h := absurd h (by simp)
  write_required _ _ := rfl
  placeless := codec.placeless
  plain h := Option.some.inj h ▸ codec.plain _

/-- A part that is left out where it is what absence means. -/
def skipping (key : String) (codec : Codec α) (start : α) (skips : α → Bool) (get : σ → α)
    (put : α → σ → σ) (eq_start : ∀ v, skips v = true → v = start)
    (get_put : ∀ v s, get (put v s) = v := by intros; rfl) : Clause σ where
  key
  Part := α
  decoder := codec.decoder
  write v := if skips v then none else some (codec.encode v)
  depth := codec.depth
  start
  required := false
  get
  put
  get_put
  read_write h := (Option.some.inj (Option.ite_none_left_eq_some.mp h).2) ▸ codec.read_encode _
  eq_start {v} h := eq_start v (by simpa using h)
  write_required h := absurd h Bool.false_ne_true
  placeless := codec.placeless
  plain h := (Option.some.inj (Option.ite_none_left_eq_some.mp h).2) ▸ codec.plain _

/-- A part that there may be none of. -/
def optional (key : String) (codec : Codec α) (get : σ → Option α) (put : Option α → σ → σ)
    (get_put : ∀ v s, get (put v s) = v := by intros; rfl) : Clause σ where
  key
  Part := Option α
  decoder := codec.decoder.nullable
  write v := v.map codec.encode
  depth := codec.depth
  start := none
  required := false
  get
  put
  get_put
  read_write {v j} h := by
    obtain ⟨a, rfl, rfl⟩ := Option.map_eq_some_iff.mp h
    rw [Decoder.nullable_ofJson_of_ne (codec.encode_ne_null a), codec.read_encode]
    rfl
  eq_start h := Option.map_eq_none_iff.mp h
  write_required h := absurd h Bool.false_ne_true
  placeless := Decoder.placeless_nullable codec.placeless
  plain h := by
    obtain ⟨a, -, rfl⟩ := Option.map_eq_some_iff.mp h
    exact codec.plain a

/-- What reads the part. -/
def field (c : Clause σ) : Field σ :=
  { Field.plain c.key c.decoder c.put with need := if c.required then .always else .never }

/-- The member of a written record. -/
def member (c : Clause σ) (s : σ) : String × Option Json := (c.key, c.write (c.get s))

/-- Neither of two parts is touched where the other one is put in. -/
def Apart (c c' : Clause σ) : Prop :=
  (∀ v s, c'.get (c.put v s) = c'.get s) ∧ ∀ v s, c.get (c'.put v s) = c.get s

instance : Std.Symm (@Apart σ) := ⟨fun _ _ h => ⟨h.2, h.1⟩⟩

/-- What reading a part of a document, if it is there, makes of a part of a record. -/
def Reads (c : Clause σ) (part? : Option Written) (old new : c.Part) : Prop :=
  match part? with
  | none => new = old
  | some w => c.decoder w = .ok new

/-- A part of a document says what a part of a record is. -/
def Shows (c : Clause σ) (part? : Option Written) (v : c.Part) : Prop := c.Reads part? c.start v

end Clause

/-! ## 3. Parts of a document -/

/-- The member is called so. -/
def MemberName.isCalled (key : String) : MemberName → Bool
  | .name text => text = key
  | _ => false

namespace Json.Written

/-- The first member of a name. -/
def memberOf? (members : List (MemberName × Written)) (key : String) : Option Written :=
  (members.find? fun m => m.1.isCalled key).map (·.2)

/-- The part of a record: the member of a name or the element at a position. -/
def part? (key : String) (position : Nat) : Written → Option Written
  | .obj _ members => memberOf? members key
  | .arr _ items => items[position]?
  | _ => none

theorem memberOf?_cons (text key : String) (w : Written) (members : List (MemberName × Written)) :
    memberOf? ((.name text, w) :: members) key =
      if text = key then some w else memberOf? members key := by
  rw [memberOf?, memberOf?]
  by_cases h : text = key
  · rw [if_pos h, List.find?_cons_of_pos (by simpa [MemberName.isCalled] using h), Option.map_some]
  · rw [if_neg h, List.find?_cons_of_neg (by simpa [MemberName.isCalled] using h)]

theorem memberOf?_ofMembers (ms : List (String × Json)) (key : String) :
    memberOf? (ofMembers ms) key = (ms.lookup key).map ofJson := by
  induction ms with
  | nil => rfl
  | cons m ms ih =>
    rw [ofMembers, memberOf?_cons, ih, Entries.lookup_cons_ite]
    by_cases h : m.1 = key
    · rw [if_pos h, if_pos h.symm, Option.map_some]
    · rw [if_neg h, if_neg (Ne.symm h)]

end Json.Written

/-! ## 4. Sheets -/

/-- A record of clauses. -/
structure Sheet (σ : Type) where
  name : String
  start : σ
  /-- The clauses, in the order of the list form. -/
  clauses : List (Clause σ)
  /-- Texts that are written, and not looked at on reading. -/
  constants : List (String × String) := []
  /-- The positions of the clauses, in the order of their keys. -/
  order : List Nat
  perm : order.Perm (List.range clauses.length) := by decide
  ascending : (constants.map (·.1) ++
    (order.filterMap (clauses[·]?)).map (·.key)).Pairwise (· < ·) := by decide
  apart : clauses.Pairwise Clause.Apart := by
    simp [Clause.Apart, Clause.always, Clause.skipping, Clause.optional]
  get_start : ∀ c ∈ clauses, c.get start = c.start := by
    simp [Clause.always, Clause.skipping, Clause.optional]
  ext : ∀ s s', (∀ c ∈ clauses, c.get s = c.get s') → s = s' := by
    rintro ⟨⟩ ⟨⟩ h
    simp_all [Clause.always, Clause.skipping, Clause.optional]

namespace Sheet

variable {σ : Type} (t : Sheet σ)

/-- The clauses in the order of their keys. -/
def sorted : List (Clause σ) := t.order.filterMap (t.clauses[·]?)

/-- Reads a record. -/
def decoder : Decoder σ := .record t.name t.start (t.clauses.map (·.field))

/-- The members of a written record, and those left out. -/
def members (s : σ) : List (String × Option Json) :=
  t.constants.map (fun c => (c.1, some (.str c.2))) ++ t.sorted.map (·.member s)

/-- Writes a record. -/
def encode (s : σ) : Json := .record (t.members s)

variable {t}

theorem mem_sorted {c : Clause σ} : c ∈ t.sorted ↔ c ∈ t.clauses := by
  rw [sorted, List.mem_filterMap]
  constructor
  · rintro ⟨i, -, hi⟩
    exact List.mem_of_getElem? hi
  · intro h
    obtain ⟨i, hi⟩ := List.mem_iff_getElem?.mp h
    obtain ⟨hlt, -⟩ := List.getElem?_eq_some_iff.mp hi
    exact ⟨i, t.perm.mem_iff.mpr (List.mem_range.mpr hlt), hi⟩

/-- A key belongs to one clause. -/
theorem eq_of_key {c c' : Clause σ} (h : c ∈ t.clauses) (h' : c' ∈ t.clauses)
    (hkey : c.key = c'.key) : c = c' :=
  Entries.eq_of_key (List.pairwise_append.mp t.ascending).2.1 (mem_sorted.mpr h)
    (mem_sorted.mpr h') hkey

/-- What is found at a key is the field of its clause. -/
theorem find?_field (key : String) :
    (∃ c ∈ t.clauses, c.key = key ∧
      (t.clauses.map (·.field)).find? (fun f => decide (f.key = key)) = some c.field) ∨
    (∀ c ∈ t.clauses, c.key ≠ key) ∧
      (t.clauses.map (·.field)).find? (fun f => decide (f.key = key)) = none := by
  rw [List.find?_map]
  cases hfind : t.clauses.find? ((fun f => decide (f.key = key)) ∘ Clause.field) with
  | none =>
    refine .inr ⟨fun c hc heq => ?_, rfl⟩
    exact List.find?_eq_none.mp hfind c hc (decide_eq_true heq)
  | some c =>
    have hkey : ((fun f : Field σ => decide (f.key = key)) ∘ Clause.field) c = true :=
      List.find?_some hfind
    exact .inl ⟨c, List.mem_of_find?_eq_some hfind, of_decide_eq_true hkey, rfl⟩

/-! ## 5. Reading objects -/

variable (t)

/-- How the members of an object make a record. -/
def layout : Layout σ := { fields := t.clauses.map (·.field), once := true }

/-- The members can be gone through: their names can be read, no clause is given twice, and whatever
belongs to no clause can be passed over. -/
def Legible : List String → List (MemberName × Written) → Prop
  | _, [] => True
  | seen, (name, w) :: rest => ∃ key, name = .name key ∧
    ((∃ c ∈ t.clauses, c.key = key) ∧ key ∉ seen ∧ Legible (key :: seen) rest ∨
      (∀ c ∈ t.clauses, c.key ≠ key) ∧ w.isWhole = true ∧ Legible seen rest)

/-- What members make of a record, clause by clause. -/
def Reads (members : List (MemberName × Written)) (s s' : σ) : Prop :=
  ∀ c ∈ t.clauses, c.Reads (Written.memberOf? members c.key) (c.get s) (c.get s')

variable {t}

theorem legible_cons_clause {c : Clause σ} (hc : c ∈ t.clauses) {seen : List String} {w : Written}
    {members : List (MemberName × Written)} :
    t.Legible seen ((.name c.key, w) :: members) ↔
      c.key ∉ seen ∧ t.Legible (c.key :: seen) members := by
  constructor
  · rintro ⟨key, hkey, h⟩
    obtain rfl := MemberName.name.inj hkey
    exact (h.resolve_right fun hother => hother.1 c hc rfl).2
  · exact fun h => ⟨c.key, rfl, .inl ⟨⟨c, hc, rfl⟩, h⟩⟩

theorem legible_cons_other {key : String} (hkey : ∀ c ∈ t.clauses, c.key ≠ key)
    {seen : List String} {w : Written} {members : List (MemberName × Written)} :
    t.Legible seen ((.name key, w) :: members) ↔ w.isWhole = true ∧ t.Legible seen members := by
  constructor
  · rintro ⟨key', heq, h⟩
    obtain rfl := MemberName.name.inj heq
    exact (h.resolve_left fun ⟨⟨c, hc, hmine⟩, _⟩ => hkey c hc hmine).2
  · exact fun h => ⟨key, rfl, .inr ⟨hkey, h⟩⟩

/-- What was given before is not given again. -/
theorem memberOf?_eq_none_of_seen {c : Clause σ} (hc : c ∈ t.clauses)
    {members : List (MemberName × Written)} {seen : List String} (h : t.Legible seen members)
    (hseen : c.key ∈ seen) : Written.memberOf? members c.key = none := by
  induction members generalizing seen with
  | nil => rfl
  | cons m members ih =>
    obtain ⟨name, w⟩ := m
    obtain ⟨key, rfl, ⟨-, hnew, hrest⟩ | ⟨hother, -, hrest⟩⟩ := h
    · rw [Written.memberOf?_cons, if_neg fun heq : key = c.key => hnew (heq ▸ hseen)]
      exact ih hrest (List.mem_cons_of_mem _ hseen)
    · rw [Written.memberOf?_cons, if_neg fun heq => hother c hc heq.symm]
      exact ih hrest hseen

section

variable {c₀ : Clause σ} {w : Written} {members : List (MemberName × Written)} {s s' : σ}

/-- A member of a clause is read into its part, and the others into the other parts. -/
theorem reads_cons (h₀ : c₀ ∈ t.clauses) (hnone : Written.memberOf? members c₀.key = none) :
    t.Reads ((.name c₀.key, w) :: members) s s' ↔
      ∃ v, c₀.decoder w = .ok v ∧ t.Reads members (c₀.put v s) s' := by
  have hmember : ∀ c ∈ t.clauses, c ≠ c₀ →
      Written.memberOf? ((.name c₀.key, w) :: members) c.key = Written.memberOf? members c.key := by
    intro c hc hne
    rw [Written.memberOf?_cons, if_neg fun heq => hne (eq_of_key hc h₀ heq.symm)]
  have hget : ∀ c ∈ t.clauses, c ≠ c₀ → ∀ v, c.get (c₀.put v s) = c.get s := fun c hc hne v =>
    (t.apart.forall h₀ hc (Ne.symm hne)).1 v s
  constructor
  · intro h
    have hpart := h c₀ h₀
    rw [Written.memberOf?_cons, if_pos rfl] at hpart
    refine ⟨c₀.get s', hpart, fun c hc => ?_⟩
    by_cases hne : c = c₀
    · subst hne
      rw [hnone]
      exact (c.get_put _ s).symm
    · rw [hget c hc hne, ← hmember c hc hne]
      exact h c hc
  · rintro ⟨v, hv, h⟩ c hc
    by_cases hne : c = c₀
    · subst hne
      have hpart := h c hc
      rw [hnone] at hpart
      have hsame : c.get s' = v := hpart.trans (c.get_put v s)
      rw [Written.memberOf?_cons, if_pos rfl, hsame]
      exact hv
    · rw [hmember c hc hne, ← hget c hc hne v]
      exact h c hc

theorem reads_cons_other {key : String} (h : ∀ c ∈ t.clauses, c.key ≠ key) :
    t.Reads ((.name key, w) :: members) s s' ↔ t.Reads members s s' := by
  refine forall₂_congr fun c hc => ?_
  rw [Written.memberOf?_cons, if_neg fun heq => h c hc heq.symm]

end

section

variable (t) (stop : Mark) (seen : List String) (w : Written)
variable (members : List (MemberName × Written)) (s : σ)

/-- A member of a clause is read into its part. -/
theorem readMembers_clause {c : Clause σ} (hc : c ∈ t.clauses) (hseen : c.key ∉ seen) :
    t.layout.readMembers stop seen ((.name c.key, w) :: members) s =
      ((c.decoder w).map (c.put · s) >>= t.layout.readMembers stop (c.key :: seen) members) := by
  have hfield : t.layout.fields.find? (fun f => decide (f.key = c.key)) = some c.field := by
    obtain ⟨c', hc', hkey, hfield⟩ | ⟨hother, -⟩ := t.find?_field c.key
    · rw [eq_of_key hc' hc hkey] at hfield
      exact hfield
    · exact absurd rfl (hother c hc)
  rw [Layout.readMembers, read_name_bind, hfield]
  dsimp only
  rw [if_neg (by simp [hseen])]
  rfl

/-- A clause is not read twice. -/
theorem readMembers_seen {c : Clause σ} (hc : c ∈ t.clauses) (hseen : c.key ∈ seen) :
    t.layout.readMembers stop seen ((.name c.key, w) :: members) s =
      .error ((Mismatch.repeated c.key).at_ none) := by
  rw [Layout.readMembers, read_name_bind]
  obtain ⟨c', -, -, hfield⟩ | ⟨hother, -⟩ := t.find?_field c.key
  · have hfield : t.layout.fields.find? (fun f => decide (f.key = c.key)) = some c'.field := hfield
    rw [hfield]
    dsimp only
    rw [if_pos (by simp [layout, hseen])]
    rfl
  · exact absurd rfl (hother c hc)

/-- Whatever belongs to no clause is passed over. -/
theorem readMembers_other {key : String} (hkey : ∀ c ∈ t.clauses, c.key ≠ key) :
    t.layout.readMembers stop seen ((.name key, w) :: members) s =
      (w.pass >>= fun _ => t.layout.readMembers stop seen members s) := by
  rw [Layout.readMembers, read_name_bind]
  obtain ⟨c, hc, heq, -⟩ | ⟨-, hfield⟩ := t.find?_field key
  · exact absurd heq (hkey c hc)
  · have hfield : t.layout.fields.find? (fun f => decide (f.key = key)) = none := hfield
    rw [hfield]
    change ((w.pass >>= fun _ => Except.ok s) >>= t.layout.readMembers stop seen members) = _
    cases w.pass <;> rfl

end

/-- **Members are read clause by clause**, in whatever order they stand. -/
theorem readMembers_iff {stop : Mark} {members : List (MemberName × Written)} :
    ∀ {seen : List String} {s s' : σ},
      (∃ seen', t.layout.readMembers stop seen members s = .ok (seen', s')) ↔
        t.Legible seen members ∧ t.Reads members s s' := by
  induction members with
  | nil =>
    intro seen s s'
    constructor
    · rintro ⟨seen', h⟩
      obtain ⟨-, rfl⟩ := Prod.mk.inj (Except.ok.inj h)
      exact ⟨trivial, fun _ _ => rfl⟩
    · rintro ⟨-, h⟩
      rw [t.ext s s' fun c hc => (h c hc).symm]
      exact ⟨seen, rfl⟩
  | cons m members ih =>
    -- The name cannot be taken, or it belongs to a clause, or to none.
    intro seen s s'
    obtain ⟨_ | _ | _, w⟩ := m
    case spoiled => exact ⟨fun ⟨_, h⟩ => (nomatch h), fun ⟨⟨_, h, _⟩, _⟩ => (nomatch h)⟩
    case foreign => exact ⟨fun ⟨_, h⟩ => (nomatch h), fun ⟨⟨_, h, _⟩, _⟩ => (nomatch h)⟩
    case name key =>
      by_cases hkey : ∃ c ∈ t.clauses, c.key = key
      · obtain ⟨c, hc, rfl⟩ := hkey
        rw [legible_cons_clause hc]
        by_cases hseen : c.key ∈ seen
        · rw [readMembers_seen t stop seen w members s hc hseen]
          exact ⟨fun ⟨_, h⟩ => (nomatch h), fun h => absurd hseen h.1.1⟩
        · simp only [readMembers_clause t stop seen w members s hc hseen, bind_eq_ok, map_eq_ok]
          constructor
          · rintro ⟨seen', _, ⟨v, hv, rfl⟩, hrest⟩
            obtain ⟨hlegible, hreads⟩ := ih.mp ⟨seen', hrest⟩
            have hnone := memberOf?_eq_none_of_seen hc hlegible List.mem_cons_self
            exact ⟨⟨hseen, hlegible⟩, (reads_cons hc hnone).mpr ⟨v, hv, hreads⟩⟩
          · rintro ⟨⟨-, hlegible⟩, hreads⟩
            have hnone := memberOf?_eq_none_of_seen hc hlegible List.mem_cons_self
            obtain ⟨v, hv, hreads⟩ := (reads_cons hc hnone).mp hreads
            obtain ⟨seen', hrest⟩ := ih.mpr ⟨hlegible, hreads⟩
            exact ⟨seen', _, ⟨v, hv, rfl⟩, hrest⟩
      · have hother : ∀ c ∈ t.clauses, c.key ≠ key := fun c hc heq => hkey ⟨c, hc, heq⟩
        rw [legible_cons_other hother, reads_cons_other hother, and_assoc, ← ih,
          readMembers_other t stop seen w members s hother]
        cases hwhole : w.isWhole <;> simp [Written.pass, hwhole, bind, Except.bind]

/-- The clauses that were seen are those that were given. -/
theorem mem_seen_iff {stop : Mark} {members : List (MemberName × Written)} {c : Clause σ}
    (hc : c ∈ t.clauses) : ∀ {seen seen' : List String} {s s' : σ},
      t.layout.readMembers stop seen members s = .ok (seen', s') →
        (c.key ∈ seen' ↔ c.key ∈ seen ∨ (Written.memberOf? members c.key).isSome = true) := by
  induction members with
  | nil =>
    intro seen seen' s s' h
    obtain ⟨rfl, -⟩ := Prod.mk.inj (Except.ok.inj h)
    exact ⟨.inl, fun h => h.resolve_right Bool.false_ne_true⟩
  | cons m members ih =>
    intro seen seen' s s' h
    obtain ⟨_ | _ | _, w⟩ := m
    case spoiled => exact nomatch h
    case foreign => exact nomatch h
    case name key =>
      rw [Written.memberOf?_cons]
      by_cases hkey : ∃ c ∈ t.clauses, c.key = key
      · obtain ⟨c₀, h₀, rfl⟩ := hkey
        by_cases hseen : c₀.key ∈ seen
        · rw [readMembers_seen t stop seen w members s h₀ hseen] at h
          exact nomatch h
        · rw [readMembers_clause t stop seen w members s h₀ hseen, bind_eq_ok] at h
          obtain ⟨_, -, hrest⟩ := h
          rw [ih hrest, List.mem_cons]
          by_cases heq : c₀.key = c.key
          · simp [heq]
          · simp [heq, Ne.symm heq]
      · have hother : ∀ c ∈ t.clauses, c.key ≠ key := fun c hc heq => hkey ⟨c, hc, heq⟩
        rw [readMembers_other t stop seen w members s hother, bind_eq_ok] at h
        obtain ⟨_, -, hrest⟩ := h
        rw [ih hrest, if_neg (Ne.symm (hother c hc))]

/-- Nothing is missing if all required clauses were seen. -/
theorem missing?_eq_none_iff {seen : List String} :
    t.layout.missing? seen = none ↔ ∀ c ∈ t.clauses, c.required = true → c.key ∈ seen := by
  rw [Layout.missing?, Option.map_eq_none_iff, List.find?_eq_none]
  simp only [layout, List.mem_map, forall_exists_index, and_imp, forall_apply_eq_imp_iff₂]
  refine forall₂_congr fun c _ => ?_
  cases hrequired : c.required <;> simp [Clause.field, Field.plain, hrequired]

/-- **An object is read clause by clause.**  It is accepted exactly if it can be gone through to its
end, gives what is required, and shows each part of the record. -/
theorem decoder_obj_iff {o : Outline} {members : List (MemberName × Written)} {s : σ} :
    t.decoder (.obj o members) = .ok s ↔
      o.deep = false ∧ o.closed = true ∧ t.Legible [] members ∧
        (∀ c ∈ t.clauses, c.required = true →
          (Written.memberOf? members c.key).isSome = true) ∧
        ∀ c ∈ t.clauses, c.Shows (Written.memberOf? members c.key) (c.get s) := by
  have henter : o.enter = .ok () ↔ o.deep = false := by
    rw [Outline.enter]
    cases o.deep <;> simp
  have hleave : o.leave = .ok () ↔ o.closed = true := by
    rw [Outline.leave]
    cases o.closed <;> simp
  have hstart : t.Reads members t.start s ↔
      ∀ c ∈ t.clauses, c.Shows (Written.memberOf? members c.key) (c.get s) := by
    refine forall₂_congr fun c hc => ?_
    rw [t.get_start c hc, Clause.Shows]
  change t.layout.readObject t.start o members = .ok s ↔ _
  simp only [Layout.readObject, bind_eq_ok, ← hstart, ← henter, ← hleave]
  constructor
  · rintro ⟨_, hdeep, ⟨seen, s'⟩, hread, _, hclosed, hmissing⟩
    cases hnone : t.layout.missing? seen with
    | some key =>
      rw [hnone] at hmissing
      cases hmissing
    | none =>
      rw [hnone] at hmissing
      obtain rfl : s' = s := Except.ok.inj hmissing
      obtain ⟨hlegible, hreads⟩ := readMembers_iff.mp ⟨seen, hread⟩
      refine ⟨hdeep, hclosed, hlegible, fun c hc hrequired => ?_, hreads⟩
      have hseen := missing?_eq_none_iff.mp hnone c hc hrequired
      exact ((mem_seen_iff hc hread).mp hseen).resolve_left List.not_mem_nil
  · rintro ⟨hdeep, hclosed, hlegible, hrequired, hreads⟩
    obtain ⟨seen, hread⟩ := readMembers_iff.mpr ⟨hlegible, hreads⟩
    refine ⟨(), hdeep, (seen, s), hread, (), hclosed, ?_⟩
    have hnone : t.layout.missing? seen = none := missing?_eq_none_iff.mpr fun c hc h =>
      (mem_seen_iff hc hread).mpr (.inr (hrequired c hc h))
    rw [hnone]
    rfl

/-! ## 6. Reading lists -/

/-- Elements are read clause by clause, and no other part is touched. -/
theorem reads_of_readItems {clauses : List (Clause σ)} (hapart : clauses.Pairwise Clause.Apart) :
    ∀ {items : List Written} {s s' : σ},
      Field.readItems (clauses.map (·.field)) items s = .ok s' →
        (∀ (i : Nat) (c : Clause σ), clauses[i]? = some c →
          c.Reads items[i]? (c.get s) (c.get s')) ∧
          ∀ d : Clause σ, (∀ c ∈ clauses, c.Apart d) → d.get s' = d.get s := by
  induction clauses with
  | nil =>
    intro items s s' h
    obtain rfl := Except.ok.inj h
    exact ⟨fun i c hc => absurd hc (by simp), fun _ _ => rfl⟩
  | cons c clauses ih =>
    obtain ⟨hfirst, hapart⟩ := List.pairwise_cons.mp hapart
    rintro (_ | ⟨w, items⟩) s s' h
    · obtain rfl := Except.ok.inj h
      exact ⟨fun _ _ _ => rfl, fun _ _ => rfl⟩
    · rw [List.map_cons, Field.readItems, bind_eq_ok] at h
      obtain ⟨s₁, hpart, hrest⟩ := h
      obtain ⟨v, hv, rfl⟩ := map_eq_ok.mp hpart
      obtain ⟨hreads, hothers⟩ := ih hapart hrest
      constructor
      · rintro (_ | i) c' hc'
        · obtain rfl := Option.some.inj hc'
          have hkept := hothers c fun c' hc' => (hfirst c' hc').symm
          rw [hkept, c.get_put]
          exact hv
        · have hread := hreads i c' hc'
          rw [(hfirst c' (List.mem_of_getElem? hc')).1 v s] at hread
          exact hread
      · intro d hd
        rw [hothers d fun c' hc' => hd c' (List.mem_cons_of_mem _ hc'),
          (hd c List.mem_cons_self).1 v s]

/-- **Whatever form a record has, its parts show the parts of what is read.** -/
theorem shows_of_decoder {w : Written} {s : σ} (h : t.decoder w = .ok s) {i : Nat} {c : Clause σ}
    (hc : t.clauses[i]? = some c) : c.Shows (w.part? c.key i) (c.get s) := by
  have hmem := List.mem_of_getElem? hc
  rcases w with _ | ⟨o, items⟩ | ⟨o, members⟩ | _
  · exact nomatch h
  · obtain ⟨_, -, h⟩ := bind_eq_ok.mp h
    obtain ⟨s', hread, h⟩ := bind_eq_ok.mp h
    obtain ⟨_, -, h⟩ := bind_eq_ok.mp h
    obtain ⟨_, -, h⟩ := bind_eq_ok.mp h
    obtain rfl : s' = s := by
      dsimp only at h
      split at h
      · exact nomatch h
      · exact Except.ok.inj h
    have hreads := (reads_of_readItems t.apart hread).1 i c hc
    rw [t.get_start c hmem] at hreads
    exact hreads
  · exact (decoder_obj_iff.mp h).2.2.2.2 c hmem
  · exact nomatch h

/-! ## 7. Writing -/

theorem ascending_members (s : σ) : Ascending (t.members s) := by
  have hkeys : (t.members s).map (·.1) = t.constants.map (·.1) ++ t.sorted.map (·.key) := by
    rw [members, List.map_append, List.map_map, List.map_map]
    rfl
  have h : (t.constants.map (·.1) ++ t.sorted.map (·.key)).Pairwise (· < ·) := t.ascending
  rw [← hkeys, List.pairwise_map] at h
  exact h

/-- The members of a written record that are not left out. -/
def written (t : Sheet σ) (s : σ) : List (String × Json) :=
  (t.members s).filterMap fun m => m.2.map (m.1, ·)

/-- A clause is written at its key. -/
theorem lookup_written {c : Clause σ} (hc : c ∈ t.clauses) (s : σ) :
    (t.written s).lookup c.key = c.write (c.get s) := by
  have hmem : c.member s ∈ t.members s :=
    List.mem_append_right _ (List.mem_map_of_mem (mem_sorted.mpr hc))
  rw [written, Record.lookup_record (ascending_members s),
    Entries.lookup_of_mem (ascending_members s) hmem]
  rfl

/-- Members in ascending order can be gone through. -/
theorem legible_ofMembers {ms : List (String × Json)} (hms : Ascending ms) :
    ∀ {seen : List String}, (∀ m ∈ ms, m.1 ∉ seen) → t.Legible seen (Written.ofMembers ms) := by
  induction ms with
  | nil => exact fun _ => trivial
  | cons m ms ih =>
    intro seen hseen
    obtain ⟨hfirst, hms⟩ := List.pairwise_cons.mp hms
    have hrest : ∀ e ∈ ms, e.1 ∉ seen := fun e he => hseen e (List.mem_cons_of_mem _ he)
    rw [Written.ofMembers]
    by_cases hkey : ∃ c ∈ t.clauses, c.key = m.1
    · refine ⟨m.1, rfl, .inl ⟨hkey, hseen m List.mem_cons_self, ih hms fun e he hmem => ?_⟩⟩
      rcases List.mem_cons.mp hmem with heq | hmem
      · exact String.lt_irrefl _ (heq ▸ hfirst e he)
      · exact hrest e he hmem
    · have hother : ∀ c ∈ t.clauses, c.key ≠ m.1 := fun c hc heq => hkey ⟨c, hc, heq⟩
      exact ⟨m.1, rfl, .inr ⟨hother, Written.isWhole_ofJson m.2, ih hms hrest⟩⟩

/-- **A record comes back.** -/
theorem decoder_ofJson_encode (s : σ) : t.decoder.ofJson (t.encode s) = .ok s := by
  have hmember : ∀ c ∈ t.clauses, Written.memberOf? (Written.ofMembers (t.written s)) c.key =
      (c.write (c.get s)).map Written.ofJson := by
    intro c hc
    rw [Written.memberOf?_ofMembers, lookup_written hc]
  change t.decoder (.obj {} (Written.ofMembers (t.written s))) = .ok s
  refine decoder_obj_iff.mpr ⟨rfl, rfl, ?_, fun c hc hrequired => ?_, fun c hc => ?_⟩
  · exact legible_ofMembers (Record.ascending_record (ascending_members s))
      fun _ _ => List.not_mem_nil
  · rw [hmember c hc, Option.isSome_map]
    exact c.write_required hrequired _
  · rw [hmember c hc]
    cases hwrite : c.write (c.get s) with
    | none => exact c.eq_start hwrite
    | some j => exact c.read_write hwrite

/-- A record is read wherever it stands. -/
theorem placeless_decoder (t : Sheet σ) : t.decoder.Placeless := by
  refine Decoder.placeless_record fun f hf => ?_
  obtain ⟨c, -, rfl⟩ := List.mem_map.mp hf
  have hplain : (Field.plain c.key c.decoder c.put).Placeless := Field.placeless_plain c.placeless
  exact hplain

/-- So many containers are in a record one inside the other at most. -/
def depth (t : Sheet σ) : Nat := (t.clauses.map (·.depth)).foldr max 0 + 1

theorem le_foldr_max {n : Nat} {depths : List Nat} (h : n ∈ depths) : n ≤ depths.foldr max 0 := by
  induction depths with
  | nil => exact absurd h List.not_mem_nil
  | cons m depths ih =>
    rw [List.foldr_cons]
    rcases List.mem_cons.mp h with rfl | h
    · exact Nat.le_max_left _ _
    · exact Nat.le_trans (ih h) (Nat.le_max_right _ _)

theorem plain_encode (s : σ) : (t.encode s).Plain t.depth := by
  refine Json.plain_record fun m hm j hj => ?_
  rcases List.mem_append.mp hm with hm | hm
  · obtain ⟨c, -, rfl⟩ := List.mem_map.mp hm
    exact Option.some.inj hj ▸ .str _ _
  · obtain ⟨c, hc, rfl⟩ := List.mem_map.mp hm
    exact (c.plain hj).mono (le_foldr_max (List.mem_map_of_mem (mem_sorted.mp hc)))

/-- Records. -/
def codec (t : Sheet σ) : Codec σ where
  decoder := t.decoder
  encode := t.encode
  depth := t.depth
  read_encode := decoder_ofJson_encode
  encode_ne_null _ := Json.noConfusion
  placeless := t.placeless_decoder
  plain := plain_encode

end Sheet
end InjectionWebhook
