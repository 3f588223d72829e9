/-
# Text-keyed maps

`Dict α` is a finite map from text to `α`.  Its entries are kept in ascending key order, so that two
maps with the same entries are the same value and every listing of a map comes out in one order, the
order of code points.

The view of a map is `get?`; each operation is described through it:

* `get?_insert`: an insertion answers at its own key and nowhere else;
* `get?_extend`: of several pairs with one key the last counts, and every one wins over the map;
* `get?_ofList`: ascending pairs are looked up as they stand.
-/
namespace InjectionWebhook

/-! ## 1. Entry lists -/

namespace Entries

variable {α β : Type}

/-- Puts a pair at its place in an ascending list, over an earlier pair with the same key. -/
def insert (key : String) (value : α) : List (String × α) → List (String × α)
  | [] => [(key, value)]
  | (k, v) :: rest =>
    if key < k then (key, value) :: (k, v) :: rest
    else if key = k then (key, value) :: rest
    else (k, v) :: insert key value rest

/-- Keys strictly ascend. -/
def Ascending (entries : List (String × α)) : Prop :=
  entries.Pairwise (fun a b => a.1 < b.1)

instance (entries : List (String × α)) : Decidable (Ascending entries) :=
  inferInstanceAs (Decidable (entries.Pairwise (fun a b => a.1 < b.1)))

theorem mem_insert {key : String} {value : α} {entries : List (String × α)} {e : String × α}
    (h : e ∈ insert key value entries) : e = (key, value) ∨ e ∈ entries := by
  induction entries with
  | nil => simpa [insert] using h
  | cons p rest ih =>
    obtain ⟨k, v⟩ := p
    simp only [insert] at h
    split at h
    · simpa using h
    · split at h
      · rcases List.mem_cons.mp h with h | h
        · exact .inl h
        · exact .inr (List.mem_cons_of_mem _ h)
      · rcases List.mem_cons.mp h with h | h
        · exact .inr (by simp [h])
        · exact (ih h).imp id (List.mem_cons_of_mem _)

theorem lt_of_not_lt_of_ne {a b : String} (h : ¬ a < b) (hne : a ≠ b) : b < a :=
  Std.lt_of_le_of_ne (String.not_lt.mp h) (Ne.symm hne)

theorem ascending_insert {key : String} {value : α} {entries : List (String × α)}
    (h : Ascending entries) : Ascending (insert key value entries) := by
  induction entries with
  | nil => simp [insert, Ascending]
  | cons p rest ih =>
    obtain ⟨k, v⟩ := p
    obtain ⟨hk, hr⟩ := List.pairwise_cons.mp h
    simp only [insert]
    split
    · rename_i hlt
      refine List.pairwise_cons.mpr ⟨fun e he => ?_, h⟩
      rcases List.mem_cons.mp he with rfl | he
      · exact hlt
      · exact String.lt_trans hlt (hk e he)
    · split
      · rename_i heq
        subst heq
        exact List.pairwise_cons.mpr ⟨hk, hr⟩
      · rename_i hlt hne
        refine List.pairwise_cons.mpr ⟨fun e he => ?_, ih hr⟩
        rcases mem_insert he with rfl | he
        · exact lt_of_not_lt_of_ne hlt hne
        · exact hk e he

theorem ascending_map (f : α → β) {entries : List (String × α)} (h : Ascending entries) :
    Ascending (entries.map (fun e => (e.1, f e.2))) := by
  unfold Ascending at h ⊢
  rw [List.pairwise_map]
  exact h

theorem lookup_cons_ite (k key : String) (value : α) (entries : List (String × α)) :
    ((key, value) :: entries).lookup k = if k = key then some value else entries.lookup k := by
  by_cases h : k = key
  · simp [h]
  · simp [List.lookup_cons, beq_false_of_ne h, h]

theorem lookup_insert (key : String) (value : α) (entries : List (String × α)) (k : String) :
    (insert key value entries).lookup k = if k = key then some value else entries.lookup k := by
  induction entries with
  | nil => simp only [insert, lookup_cons_ite]
  | cons p rest ih =>
    obtain ⟨k', v'⟩ := p
    simp only [insert]
    split
    · simp only [lookup_cons_ite]
    · split
      · rename_i heq
        subst heq
        simp only [lookup_cons_ite]
        split <;> rfl
      · rename_i hne
        simp only [lookup_cons_ite, ih]
        split
        · rename_i hk
          rw [if_neg (fun e => hne (by rw [← e, hk]))]
        · rfl

/-! ## 2. Look-ups in entry lists -/

theorem mem_of_lookup {k : String} {v : α} : ∀ {l : List (String × α)}, l.lookup k = some v →
    (k, v) ∈ l
  | [], h => absurd h (by simp)
  | (k', v') :: l, h => by
    rw [lookup_cons_ite] at h
    by_cases hk : k = k'
    · rw [if_pos hk, Option.some.injEq] at h
      rw [hk, h]
      exact List.mem_cons_self
    · rw [if_neg hk] at h
      exact List.mem_cons_of_mem _ (mem_of_lookup h)

/-- A key that no member has is not found. -/
theorem lookup_eq_none {k : String} {l : List (String × α)} (h : ∀ m ∈ l, m.1 ≠ k) :
    l.lookup k = none := by
  cases hlookup : l.lookup k with
  | none => rfl
  | some v => exact absurd rfl (h _ (mem_of_lookup hlookup))

/-- The keys of a tail lie behind that of the head. -/
theorem lookup_tail_of_not_lt {k : String} {m : String × α} {l : List (String × α)}
    (h : Ascending (m :: l)) (hk : ¬ m.1 < k) : l.lookup k = none := by
  refine lookup_eq_none fun e he heq => hk ?_
  rw [← heq]
  exact (List.pairwise_cons.mp h).1 e he

theorem lookup_of_mem {k : String} {v : α} : ∀ {l : List (String × α)}, Ascending l → (k, v) ∈ l →
    l.lookup k = some v
  | [], _, h => absurd h List.not_mem_nil
  | m :: l, hl, h => by
    obtain ⟨hfirst, htail⟩ := List.pairwise_cons.mp hl
    rw [lookup_cons_ite]
    rcases List.mem_cons.mp h with rfl | h
    · rw [if_pos rfl]
    · have hne : k ≠ m.1 := fun heq => String.lt_irrefl _ (heq ▸ hfirst _ h : m.1 < m.1)
      rw [if_neg hne, lookup_of_mem htail h]

/-- Members are kept or dropped by their keys. -/
theorem lookup_filter (q : String → Bool) (k : String) : ∀ l : List (String × α),
    (l.filter fun m => q m.1).lookup k = if q k then l.lookup k else none
  | [] => by simp
  | m :: l => by
    have ih := lookup_filter q k l
    by_cases hm : q m.1 = true
    · have hcons : (m :: l).filter (fun m => q m.1) = m :: l.filter fun m => q m.1 :=
        List.filter_cons_of_pos hm
      rw [hcons, lookup_cons_ite, lookup_cons_ite, ih]
      by_cases hk : k = m.1
      · rw [if_pos hk, if_pos hk, hk, if_pos hm]
      · rw [if_neg hk, if_neg hk]
    · have hcons : (m :: l).filter (fun m => q m.1) = l.filter fun m => q m.1 :=
        List.filter_cons_of_neg hm
      rw [hcons, lookup_cons_ite, ih]
      by_cases hk : k = m.1
      · rw [hk, if_neg hm, if_neg hm]
      · rw [if_neg hk]

theorem lookup_reverse {l : List (String × α)} (h : Ascending l) (k : String) :
    l.reverse.lookup k = l.lookup k := by
  induction l with
  | nil => rfl
  | cons m l ih =>
    rw [List.reverse_cons, List.lookup_append, ih (List.pairwise_cons.mp h).2,
      lookup_cons_ite, lookup_cons_ite]
    by_cases hk : k = m.1
    · rw [if_pos hk, if_pos hk, hk, lookup_tail_of_not_lt h (String.lt_irrefl m.1), Option.none_or]
    · rw [if_neg hk, if_neg hk, List.lookup_nil, Option.or_none]

theorem lookup_map (f : α → β) (l : List (String × α)) (k : String) :
    (l.map fun e => (e.1, f e.2)).lookup k = (l.lookup k).map f := by
  induction l with
  | nil => rfl
  | cons e l ih =>
    rw [List.map_cons, lookup_cons_ite, lookup_cons_ite, ih]
    by_cases hk : k = e.1
    · rw [if_pos hk, if_pos hk, Option.map_some]
    · rw [if_neg hk, if_neg hk]

/-- The look-up in a list of which some values are left out. -/
theorem lookup_filterMap (f : α → Option β) {l : List (String × α)}
    (h : Ascending l) (k : String) :
    (l.filterMap fun e => (f e.2).map (e.1, ·)).lookup k = (l.lookup k).bind f := by
  induction l with
  | nil => rfl
  | cons e l ih =>
    replace ih := ih (List.pairwise_cons.mp h).2
    rw [lookup_cons_ite]
    by_cases hk : k = e.1
    · have htail : l.lookup k = none := lookup_tail_of_not_lt h (hk ▸ String.lt_irrefl k)
      rw [htail] at ih
      rw [if_pos hk, Option.bind_some]
      cases hf : f e.2 with
      | none => rw [List.filterMap_cons_none (by rw [hf]; rfl), ih, Option.bind_none]
      | some b =>
        rw [List.filterMap_cons_some (by rw [hf]; rfl), lookup_cons_ite, if_pos hk]
    · rw [if_neg hk, ← ih]
      cases hf : f e.2 with
      | none => rw [List.filterMap_cons_none (by rw [hf]; rfl)]
      | some b =>
        rw [List.filterMap_cons_some (by rw [hf]; rfl), lookup_cons_ite, if_neg hk]

theorem ascending_filterMap (f : α → Option β) {l : List (String × α)}
    (h : Ascending l) : Ascending (l.filterMap fun e => (f e.2).map (e.1, ·)) := by
  refine List.Pairwise.filterMap _ (fun a a' hlt b hb b' hb' => ?_) h
  obtain ⟨x, -, rfl⟩ := Option.map_eq_some_iff.mp hb
  obtain ⟨x', -, rfl⟩ := Option.map_eq_some_iff.mp hb'
  exact hlt

end Entries

/-! ## 3. Maps -/

/-- A finite map from text to `α`, its entries in ascending key order. -/
structure Dict (α : Type) where
  entries : List (String × α)
  ascending : Entries.Ascending entries := by decide
deriving DecidableEq

namespace Dict

variable {α β : Type}

/-- The map without entries. -/
def empty : Dict α := ⟨[], List.Pairwise.nil⟩

instance : Inhabited (Dict α) := ⟨empty⟩

/-- The value at a key. -/
def get? (d : Dict α) (key : String) : Option α := d.entries.lookup key

/-- Some entry has the key. -/
def contains (d : Dict α) (key : String) : Bool := (d.get? key).isSome

/-- There is no entry at all. -/
def isEmpty (d : Dict α) : Bool := d.entries.isEmpty

/-- Sets the value at a key. -/
def insert (d : Dict α) (key : String) (value : α) : Dict α :=
  ⟨Entries.insert key value d.entries, Entries.ascending_insert d.ascending⟩

/-- Removes the entry at a key. -/
def erase (d : Dict α) (key : String) : Dict α :=
  ⟨d.entries.filter (fun e => e.1 ≠ key), d.ascending.sublist List.filter_sublist⟩

/-- Inserts the pairs one after the other: of several with one key the last counts. -/
def extend (d : Dict α) (pairs : List (String × α)) : Dict α :=
  pairs.foldl (fun d e => d.insert e.1 e.2) d

/-- The map of a list of pairs; of several with one key the last counts. -/
def ofList (pairs : List (String × α)) : Dict α := empty.extend pairs

/-- Applies a function to every value. -/
def map (f : α → β) (d : Dict α) : Dict β :=
  ⟨d.entries.map (fun e => (e.1, f e.2)), Entries.ascending_map f d.ascending⟩

@[simp] theorem get?_empty (key : String) : (empty : Dict α).get? key = none := rfl

@[simp] theorem get?_insert (d : Dict α) (key : String) (value : α) (k : String) :
    (d.insert key value).get? k = if k = key then some value else d.get? k :=
  Entries.lookup_insert key value d.entries k

@[simp] theorem extend_nil (d : Dict α) : d.extend [] = d := rfl

@[simp] theorem extend_cons (d : Dict α) (e : String × α) (pairs : List (String × α)) :
    d.extend (e :: pairs) = (d.insert e.1 e.2).extend pairs := rfl

theorem get?_extend (d : Dict α) (pairs : List (String × α)) (k : String) :
    (d.extend pairs).get? k = (pairs.reverse.lookup k).or (d.get? k) := by
  induction pairs generalizing d with
  | nil => rfl
  | cons e rest ih =>
    rw [extend_cons, ih, get?_insert, List.reverse_cons, List.lookup_append,
      Entries.lookup_cons_ite, Option.or_assoc]
    split <;> rfl

/-- Setting other keys leaves the value at a key. -/
theorem get?_extend_of_ne {key : String} :
    ∀ {pairs : List (String × α)} {d : Dict α},
    (∀ e ∈ pairs, e.1 ≠ key) → (d.extend pairs).get? key = d.get? key
  | [], _, _ => rfl
  | e :: pairs, d, h => by
    rw [extend_cons, get?_extend_of_ne fun e he => h e (List.mem_cons_of_mem _ he), get?_insert,
      if_neg (Ne.symm (h e List.mem_cons_self))]

theorem get?_ofList {l : List (String × α)} (h : Entries.Ascending l) (k : String) :
    (ofList l).get? k = l.lookup k := by
  rw [ofList, get?_extend, get?_empty, Option.or_none, Entries.lookup_reverse h]

/-- The entries of a map come from what was put in. -/
theorem mem_entries_extend {d : Dict α} {pairs : List (String × α)} {e : String × α}
    (h : e ∈ (d.extend pairs).entries) : e ∈ d.entries ∨ e ∈ pairs := by
  induction pairs generalizing d with
  | nil => exact .inl h
  | cons p pairs ih =>
    rcases ih h with h | h
    · rcases Entries.mem_insert h with rfl | h
      · exact .inr List.mem_cons_self
      · exact .inl h
    · exact .inr (List.mem_cons_of_mem _ h)

/-- A map is told by its entries. -/
theorem ext_entries {d d' : Dict α} (h : d.entries = d'.entries) : d = d' := by
  obtain ⟨entries, _⟩ := d
  obtain ⟨entries', _⟩ := d'
  obtain rfl : entries = entries' := h
  rfl

theorem eq_empty_of_isEmpty {d : Dict α} (h : d.isEmpty = true) : d = empty :=
  ext_entries (List.isEmpty_iff.mp h)

end Dict

end InjectionWebhook
