/-
# Patching a document that says more

A patch is computed from two documents, `left` and `right`, and may be carried out on a third one
that says more than `left` does.  This file says what becomes of the third document.

* Of an object (`applyTo?_diff_obj`): a member of both sides is patched where it stands, a member of
  one side is added or removed, and a member of neither side stays.
* Of a list (`applyTo?_diff_arr`): elements of both sides are patched where they stand, and the end is
  made to fit.

Each speaks of one level only; what patching the parts does is left to whoever knows the parts.
Objects are described by their look-ups: with keys in ascending order these say all there is to say
(`Entries.forall₂_of_lookup`).
-/
import InjectionWebhook.Json.Patch
import InjectionWebhook.Proofs.Lookups

namespace InjectionWebhook

/-! ## 1. Ascending members -/

namespace Json

open Entries (Ascending)

theorem ascending_eraseMember {ms : List (String × Json)} (h : Ascending ms) (key : String) :
    Ascending (eraseMember key ms) :=
  h.sublist List.filter_sublist

theorem lookup_eraseMember (key k : String) (ms : List (String × Json)) :
    (eraseMember key ms).lookup k = if k = key then none else ms.lookup k := by
  rw [eraseMember, Entries.lookup_filter fun k => k ≠ key]
  by_cases hk : k = key
  · rw [if_pos hk, if_neg (by simpa using hk)]
  · rw [if_neg hk, if_pos (by simpa using hk)]

/-! ## 2. Canonical documents -/

theorem canonicalItems_iff : ∀ {items : List Json},
    CanonicalItems items ↔ ∀ j ∈ items, j.Canonical
  | [] => by simp [CanonicalItems]
  | j :: items => by simp [CanonicalItems, canonicalItems_iff]

theorem canonicalMembers_iff : ∀ {ms : List (String × Json)},
    CanonicalMembers ms ↔ ∀ m ∈ ms, m.2.Canonical
  | [] => by simp [CanonicalMembers]
  | m :: ms => by simp [CanonicalMembers, canonicalMembers_iff]

@[simp] theorem canonical_arr {items : List Json} :
    (Json.arr items).Canonical ↔ ∀ j ∈ items, j.Canonical := by
  rw [Canonical, canonicalItems_iff]

/-- An object is canonical by its look-ups. -/
theorem canonical_obj {ms : List (String × Json)} :
    (Json.obj ms).Canonical ↔
      Ascending ms ∧ ∀ k v, ms.lookup k = some v → v.Canonical := by
  rw [Canonical, canonicalMembers_iff]
  constructor
  · rintro ⟨hms, hall⟩
    exact ⟨hms, fun k v hv => hall _ (Entries.mem_of_lookup hv)⟩
  · rintro ⟨hms, hall⟩
    exact ⟨hms, fun m hm => hall m.1 m.2 (Entries.lookup_of_mem hms hm)⟩

/-- A value without parts. -/
def isScalar : Json → Bool
  | .arr _ | .obj _ => false
  | _ => true

theorem canonical_of_isScalar {j : Json} (h : j.isScalar = true) : j.Canonical := by
  cases j with
  | arr items => exact absurd h Bool.false_ne_true
  | obj ms => exact absurd h Bool.false_ne_true
  | _ => trivial

/-! ## 3. Places -/

/-- What stands at a path. -/
def get? (j : Json) : Path → Option Json
  | [] => some j
  | step :: rest =>
    match step, j with
    | .key k, .obj members => (members.lookup k).bind (get? · rest)
    | .index i, .arr items => items[i]?.bind (get? · rest)
    | _, _ => none

@[simp] theorem get?_nil (j : Json) : j.get? [] = some j := by cases j <;> rfl

@[simp] theorem get?_obj_key (ms : List (String × Json)) (k : String) (rest : Path) :
    (Json.obj ms).get? (.key k :: rest) = (ms.lookup k).bind (get? · rest) := rfl

@[simp] theorem get?_arr_index (items : List Json) (i : Nat) (rest : Path) :
    (Json.arr items).get? (.index i :: rest) = items[i]?.bind (get? · rest) := rfl

/-- There is nothing inside a scalar. -/
theorem get?_of_isScalar {j : Json} (h : j.isScalar = true) (step : Step) (rest : Path) :
    j.get? (step :: rest) = none := by
  cases j with
  | arr items => exact absurd h Bool.false_ne_true
  | obj ms => exact absurd h Bool.false_ne_true
  | _ => cases step <;> rfl

/-- What is found in a list is found through an index. -/
theorem get?_arr_eq_some {items : List Json} {step : Step} {rest : Path} {v : Json}
    (h : (Json.arr items).get? (step :: rest) = some v) :
    ∃ i item, step = .index i ∧ items[i]? = some item ∧ item.get? rest = some v := by
  cases step with
  | key k => exact absurd h (by simp [get?])
  | index i =>
    obtain ⟨item, hitem, hv⟩ := Option.bind_eq_some_iff.mp h
    exact ⟨i, item, rfl, hitem, hv⟩

/-- What is found in an object is found through a key. -/
theorem get?_obj_eq_some {ms : List (String × Json)} {step : Step} {rest : Path} {v : Json}
    (h : (Json.obj ms).get? (step :: rest) = some v) :
    ∃ k member, step = .key k ∧ ms.lookup k = some member ∧ member.get? rest = some v := by
  cases step with
  | index i => exact absurd h (by simp [get?])
  | key k =>
    obtain ⟨member, hmember, hv⟩ := Option.bind_eq_some_iff.mp h
    exact ⟨k, member, rfl, hmember, hv⟩

/-! ## 4. One step deeper -/

@[simp] theorem Patch.applyTo?_nil (j : Json) : Patch.applyTo? [] j = some j := rfl

theorem Patch.applyTo?_cons (op : PatchOp) (patch : Patch) (j : Json) :
    Patch.applyTo? (op :: patch) j = (op.applyTo? j).bind (Patch.applyTo? patch) := rfl

theorem Patch.applyTo?_append (patch patch' : Patch) (j : Json) :
    Patch.applyTo? (patch ++ patch') j = (patch.applyTo? j).bind patch'.applyTo? := by
  induction patch generalizing j with
  | nil => rfl
  | cons op patch ih =>
    rw [List.cons_append, applyTo?_cons, applyTo?_cons]
    cases op.applyTo? j with
    | none => rfl
    | some j' => exact ih j'

/-- Changing a member that is there is inserting it anew. -/
theorem updateMember?_eq {key : String} {f : Json → Option Json} {v v' : Json} (hv : f v = some v') :
    ∀ {ms : List (String × Json)}, Ascending ms → ms.lookup key = some v →
      updateMember? key f ms = some (Entries.insert key v' ms)
  | [], _, h => absurd h (by simp)
  | (k, w) :: ms, hms, h => by
    rw [Entries.lookup_cons_ite] at h
    unfold updateMember? Entries.insert
    by_cases hk : key = k
    · rw [if_pos hk, Option.some.injEq] at h
      rw [if_pos hk.symm, h, hv, Option.map_some, if_neg (hk ▸ String.lt_irrefl key), if_pos hk, hk]
    · rw [if_neg hk] at h
      have hlt : ¬ key < k := by
        intro hlt
        rw [Entries.lookup_tail_of_not_lt hms (Std.not_lt.mpr (Std.le_of_lt hlt))] at h
        exact absurd h (by simp)
      rw [if_neg (Ne.symm hk), updateMember?_eq hv (List.pairwise_cons.mp hms).2 h, Option.map_some,
        if_neg hlt, if_neg hk]

/-- What an operation does to a member it does one step up to the object. -/
theorem PatchOp.applyTo?_under_key {op : PatchOp} {ms : List (String × Json)} {k : String}
    {v v' : Json} (hms : Ascending ms) (hv : ms.lookup k = some v) (h : op.applyTo? v = some v') :
    (op.under (.key k)).applyTo? (.obj ms) = some (.obj (Entries.insert k v' ms)) := by
  have hinto : ∀ {f : Json → Option Json}, f v = some v' →
      into? (.key k) f (.obj ms) = some (.obj (Entries.insert k v' ms)) := by
    intro f hf
    rw [into?, updateMember?_eq hf hms hv, Option.map_some]
  cases op with
  | add path value =>
    cases path with
    | nil =>
      rw [← Option.some.inj (h : some value = some v')]
      rfl
    | cons step rest => exact hinto h
  | remove path =>
    cases path with
    | nil =>
      have hnone : (none : Option Json) = some v' := h
      exact absurd hnone (by simp)
    | cons step rest => exact hinto h
  | replace path value =>
    cases path with
    | nil => exact hinto h
    | cons step rest => exact hinto h

theorem Patch.applyTo?_under_key {patch : Patch} {k : String} {v' : Json} :
    ∀ {ms : List (String × Json)} {v : Json}, Ascending ms → ms.lookup k = some v →
      patch.applyTo? v = some v' →
      (patch.under (.key k)).applyTo? (.obj ms) = some (.obj (Entries.insert k v' ms)) := by
  induction patch with
  | nil =>
    intro ms v hms hv h
    rw [Option.some.inj h] at hv
    rw [Entries.insert_of_lookup hms hv]
    rfl
  | cons op patch ih =>
    intro ms v hms hv h
    rw [applyTo?_cons] at h
    obtain ⟨w, hw, hrest⟩ := Option.bind_eq_some_iff.mp h
    have hlookup : (Entries.insert k w ms).lookup k = some w := by
      rw [Entries.lookup_insert, if_pos rfl]
    rw [Patch.under, List.map_cons, applyTo?_cons, PatchOp.applyTo?_under_key hms hv hw,
      Option.bind_some]
    refine (ih (Entries.ascending_insert hms) hlookup hrest).trans ?_
    rw [Entries.insert_insert hms]

/-- The operation adds nothing at the root.  In a list an addition makes room, it does not
replace. -/
def PatchOp.Inside : PatchOp → Prop
  | .add path _ => path ≠ []
  | _ => True

theorem PatchOp.applyTo?_under_index {op : PatchOp} (hop : op.Inside) {items : List Json} {i : Nat}
    {x x' : Json} (hx : items[i]? = some x) (h : op.applyTo? x = some x') :
    (op.under (.index i)).applyTo? (.arr items) = some (.arr (items.set i x')) := by
  have hinto : ∀ {f : Json → Option Json}, f x = some x' →
      into? (.index i) f (.arr items) = some (.arr (items.set i x')) := by
    intro f hf
    rw [into?, hx, Option.bind_some, hf, Option.map_some]
  cases op with
  | add path value =>
    cases path with
    | nil => exact absurd rfl hop
    | cons step rest => exact hinto h
  | remove path =>
    cases path with
    | nil =>
      have hnone : (none : Option Json) = some x' := h
      exact absurd hnone (by simp)
    | cons step rest => exact hinto h
  | replace path value =>
    cases path with
    | nil => exact hinto h
    | cons step rest => exact hinto h

theorem Patch.applyTo?_under_index {patch : Patch} {i : Nat} {x' : Json}
    (hpatch : ∀ op ∈ patch, op.Inside) : ∀ {items : List Json} {x : Json}, items[i]? = some x →
      patch.applyTo? x = some x' →
      (patch.under (.index i)).applyTo? (.arr items) = some (.arr (items.set i x')) := by
  induction patch with
  | nil =>
    intro items x hx h
    obtain ⟨hi, hx⟩ := List.getElem?_eq_some_iff.mp hx
    rw [← Option.some.inj h, ← hx, List.set_getElem_self]
    rfl
  | cons op patch ih =>
    intro items x hx h
    rw [applyTo?_cons] at h
    obtain ⟨w, hw, hrest⟩ := Option.bind_eq_some_iff.mp h
    have hset : (items.set i w)[i]? = some w := by
      obtain ⟨hi, -⟩ := List.getElem?_eq_some_iff.mp hx
      simp [hi]
    rw [Patch.under, List.map_cons, applyTo?_cons,
      PatchOp.applyTo?_under_index (hpatch op List.mem_cons_self) hx hw, Option.bind_some]
    refine (ih (fun op hop => hpatch op (List.mem_cons_of_mem _ hop)) hset hrest).trans ?_
    rw [List.set_set]

theorem PatchOp.inside_under (step : Step) (op : PatchOp) : (op.under step).Inside := by
  cases op <;> simp [PatchOp.under, PatchOp.Inside]

/-- **A scalar replaces whatever else stands there.** -/
theorem diff_of_isScalar {right : Json} (h : right.isScalar = true) (left : Json) :
    left = right ∧ diff left right = [] ∨ diff left right = [.replace [] right] := by
  cases right with
  | obj right => exact absurd h Bool.false_ne_true
  | arr right => exact absurd h Bool.false_ne_true
  | null => cases left <;> simp [diff]
  | bool y =>
    cases left with
    | bool x => by_cases h : x = y <;> simp [diff, h]
    | _ => simp [diff]
  | int y =>
    cases left with
    | int x => by_cases h : x = y <;> simp [diff, h]
    | _ => simp [diff]
  | decimal y =>
    cases left with
    | decimal x => by_cases h : x = y <;> simp [diff, h]
    | _ => simp [diff]
  | str y =>
    cases left with
    | str x => by_cases h : x = y <;> simp [diff, h]
    | _ => simp [diff]

/-- What gives a member of the right side. -/
def memberPatch (key : String) (old? : Option Json) (value : Json) : Patch :=
  match old? with
  | none => [.add [.key key] value]
  | some old => Patch.under (.key key) (diff old value)

theorem diffMembers_cons (left : List (String × Json)) (key : String) (value : Json)
    (right : List (String × Json)) :
    diffMembers left ((key, value) :: right) =
      memberPatch key (left.lookup key) value ++ diffMembers left right := by
  rw [diffMembers]
  cases left.lookup key <;> rfl

theorem inside_of_mem_diffMembers {left : List (String × Json)} {op : PatchOp} :
    ∀ {right : List (String × Json)}, op ∈ diffMembers left right → op.Inside
  | [], h => absurd h (by simp [diffMembers])
  | (key, value) :: right, h => by
    rw [diffMembers_cons] at h
    rcases List.mem_append.mp h with h | h
    · cases hold : left.lookup key with
      | none =>
        rw [hold, memberPatch, List.mem_singleton] at h
        rw [h]
        exact List.cons_ne_nil _ _
      | some old =>
        rw [hold] at h
        obtain ⟨op', -, rfl⟩ := List.mem_map.mp h
        exact op'.inside_under _
    · exact inside_of_mem_diffMembers h

theorem inside_of_mem_diffItems {op : PatchOp} :
    ∀ {right left : List Json} {i : Nat}, op ∈ diffItems i left right → op.Inside
  | [], left, i, h => by
    rw [diffItems] at h
    rw [List.eq_of_mem_replicate h]
    trivial
  | item :: right, [], i, h => by
    rw [diffItems] at h
    rcases List.mem_append.mp h with h | h
    · rw [List.mem_singleton.mp h]
      exact List.cons_ne_nil _ _
    · exact inside_of_mem_diffItems h
  | item :: right, old :: left, i, h => by
    rw [diffItems] at h
    rcases List.mem_append.mp h with h | h
    · obtain ⟨op', -, rfl⟩ := List.mem_map.mp h
      exact op'.inside_under _
    · exact inside_of_mem_diffItems h

/-- Comparing documents never adds at the root. -/
theorem inside_of_mem_diff {left right : Json} {op : PatchOp} (h : op ∈ diff left right) :
    op.Inside := by
  have hreplace : op ∈ [PatchOp.replace [] right] → op.Inside := by
    intro hop
    rw [List.mem_singleton.mp hop]
    trivial
  cases hright : right.isScalar with
  | true =>
    rcases diff_of_isScalar hright left with ⟨-, hdiff⟩ | hdiff
    · rw [hdiff] at h
      exact absurd h List.not_mem_nil
    · rw [hdiff] at h
      exact hreplace h
  | false =>
    cases right with
    | obj right =>
      cases left with
      | obj left =>
        rw [diff] at h
        rcases List.mem_append.mp h with h | h
        · exact inside_of_mem_diffMembers h
        · obtain ⟨m, -, rfl⟩ := List.mem_map.mp h
          trivial
      | _ => exact hreplace h
    | arr right =>
      cases left with
      | arr left =>
        rw [diff] at h
        exact inside_of_mem_diffItems h
      | _ => exact hreplace h
    | _ => exact absurd hright (by simp [isScalar])

/-! ## 5. Objects -/

/-- What becomes of a member under the patch from one look-up to another. -/
def patchedMember (left right before : Option Json) : Option Json :=
  match left, right with
  | none, none => before
  | none, some new => some new
  | some _, none => none
  | some old, some new => before.bind (diff old new).applyTo?

/-- A member of both sides can be patched. -/
def Patches (left right before : Option Json) : Prop :=
  ∀ old new, left = some old → right = some new →
    diff old new = [] ∨ ∃ v v', before = some v ∧ (diff old new).applyTo? v = some v'

/-- What gives one member leaves the others alone. -/
theorem applyTo?_memberPatch {key : String} {old? : Option Json} {value : Json}
    {ms : List (String × Json)} (hms : Ascending ms)
    (h : Patches old? (some value) (ms.lookup key)) :
    ∃ ms', (memberPatch key old? value).applyTo? (.obj ms) = some (.obj ms') ∧ Ascending ms' ∧
      ms'.lookup key = patchedMember old? (some value) (ms.lookup key) ∧
      ∀ k, k ≠ key → ms'.lookup k = ms.lookup k := by
  have hinsert : ∀ w k, (Entries.insert key w ms).lookup k =
      if k = key then some w else ms.lookup k := fun w k => Entries.lookup_insert key w ms k
  cases old? with
  | none =>
    refine ⟨_, rfl, Entries.ascending_insert hms, ?_, fun k hk => ?_⟩
    · rw [hinsert, if_pos rfl]
      rfl
    · rw [hinsert, if_neg hk]
  | some old =>
    rcases h old value rfl rfl with hsame | ⟨v, v', hv, hv'⟩
    · refine ⟨ms, by rw [memberPatch, hsame]; rfl, hms, ?_, fun _ _ => rfl⟩
      rw [patchedMember, hsame]
      cases ms.lookup key <;> rfl
    · refine ⟨_, Patch.applyTo?_under_key hms hv hv', Entries.ascending_insert hms, ?_,
        fun k hk => ?_⟩
      · rw [hinsert, if_pos rfl, patchedMember, hv, Option.bind_some, hv']
      · rw [hinsert, if_neg hk]

/-- The first part of the patch gives the members of the right side. -/
theorem applyTo?_diffMembers {left : List (String × Json)} :
    ∀ {right ms : List (String × Json)}, Ascending right → Ascending ms →
      (∀ k, Patches (left.lookup k) (right.lookup k) (ms.lookup k)) →
      ∃ ms', (diffMembers left right).applyTo? (.obj ms) = some (.obj ms') ∧ Ascending ms' ∧
        ∀ k, ms'.lookup k =
          if (right.lookup k).isSome then
            patchedMember (left.lookup k) (right.lookup k) (ms.lookup k)
          else ms.lookup k
  | [], ms, _, hms, _ => ⟨ms, by rw [diffMembers, Patch.applyTo?_nil], hms, fun _ => rfl⟩
  | (key, value) :: right, ms, hright, hms, h => by
    have hfirst := h key
    rw [Entries.lookup_cons_ite, if_pos rfl] at hfirst
    obtain ⟨ms₁, hhead, hms₁, hkey, hothers⟩ := applyTo?_memberPatch hms hfirst
    -- No later member has the key, so what it was given stays.
    have hnone : right.lookup key = none :=
      Entries.lookup_tail_of_not_lt hright (String.lt_irrefl key)
    have hrest : ∀ k, k ≠ key → ((key, value) :: right).lookup k = right.lookup k := by
      intro k hk
      rw [Entries.lookup_cons_ite, if_neg hk]
    obtain ⟨ms', happly, hms', hlookup⟩ :=
      @applyTo?_diffMembers left _ _ (List.pairwise_cons.mp hright).2 hms₁ fun k => by
        by_cases hk : k = key
        · rw [hk, hnone]
          intro old new _ hnew
          exact absurd hnew (by simp)
        · have hk' := h k
          rwa [hrest k hk, ← hothers k hk] at hk'
    refine ⟨ms', ?_, hms', fun k => ?_⟩
    · rw [diffMembers_cons, Patch.applyTo?_append, hhead, Option.bind_some, happly]
    · rw [hlookup k]
      by_cases hk : k = key
      · rw [hk, hnone, Entries.lookup_cons_ite, if_pos rfl, ← hkey]
        rfl
      · rw [hrest k hk, hothers k hk]

/-- The second part of the patch drops what only the left side has. -/
theorem applyTo?_dropped {right : List (String × Json)} :
    ∀ {left ms : List (String × Json)}, Ascending left → Ascending ms →
      (∀ k, (left.lookup k).isSome → right.lookup k = none → (ms.lookup k).isSome) →
      ∃ ms', (dropped left right).applyTo? (.obj ms) = some (.obj ms') ∧ Ascending ms' ∧
        ∀ k, ms'.lookup k =
          if (left.lookup k).isSome ∧ right.lookup k = none then none else ms.lookup k
  | [], ms, _, hms, _ => ⟨ms, rfl, hms, fun _ => rfl⟩
  | (key, value) :: left, ms, hleft, hms, h => by
    have hnone : left.lookup key = none :=
      Entries.lookup_tail_of_not_lt hleft (String.lt_irrefl key)
    have hrest : ∀ k, k ≠ key → ((key, value) :: left).lookup k = left.lookup k := by
      intro k hk
      rw [Entries.lookup_cons_ite, if_neg hk]
    have hleft' := (List.pairwise_cons.mp hleft).2
    cases hkey : right.lookup key with
    | some new =>
      have hdropped : dropped ((key, value) :: left) right = dropped left right := by
        rw [dropped, List.filter_cons_of_neg (by simp [hkey])]
        rfl
      obtain ⟨ms', happly, hms', hlookup⟩ := applyTo?_dropped hleft' hms fun k hk hright => by
        have hne : k ≠ key := fun heq => by rw [heq, hnone] at hk; exact absurd hk (by simp)
        exact h k (by rw [hrest k hne]; exact hk) hright
      refine ⟨ms', hdropped ▸ happly, hms', fun k => ?_⟩
      rw [hlookup k]
      by_cases hk : k = key
      · rw [hk, hkey]
        simp
      · rw [hrest k hk]
    | none =>
      have hdropped : dropped ((key, value) :: left) right =
          .remove [.key key] :: dropped left right := by
        rw [dropped, List.filter_cons_of_pos (by simp [hkey])]
        rfl
      have hthere : (ms.lookup key).isSome = true :=
        h key (by rw [Entries.lookup_cons_ite, if_pos rfl]; rfl) hkey
      obtain ⟨ms', happly, hms', hlookup⟩ :=
        applyTo?_dropped hleft' (ascending_eraseMember hms key) fun k hk hright => by
          have hne : k ≠ key := fun heq => by rw [heq, hnone] at hk; exact absurd hk (by simp)
          rw [lookup_eraseMember, if_neg hne]
          exact h k (by rw [hrest k hne]; exact hk) hright
      refine ⟨ms', ?_, hms', fun k => ?_⟩
      · have hremove : (PatchOp.remove [.key key]).applyTo? (.obj ms) =
            some (.obj (eraseMember key ms)) := if_pos hthere
        rw [hdropped, Patch.applyTo?_cons, hremove, Option.bind_some, happly]
      · rw [hlookup k, lookup_eraseMember]
        by_cases hk : k = key
        · rw [hk, hkey, hnone, Entries.lookup_cons_ite, if_pos rfl, if_pos rfl]
          simp
        · rw [hrest k hk, if_neg hk]

/-- **Patching an object.**  If what both sides have can be patched, and what only the left side has
is there, the patch can be carried out, and each member is patched by itself. -/
theorem applyTo?_diff_obj {left right ms : List (String × Json)} (hleft : Ascending left)
    (hright : Ascending right) (hms : Ascending ms)
    (hboth : ∀ k, Patches (left.lookup k) (right.lookup k) (ms.lookup k))
    (hgone : ∀ k, (left.lookup k).isSome → right.lookup k = none → (ms.lookup k).isSome) :
    ∃ ms', (diff (.obj left) (.obj right)).applyTo? (.obj ms) = some (.obj ms') ∧ Ascending ms' ∧
      ∀ k, ms'.lookup k = patchedMember (left.lookup k) (right.lookup k) (ms.lookup k) := by
  obtain ⟨ms₁, hfirst, hms₁, hlookup₁⟩ := applyTo?_diffMembers hright hms hboth
  have hsame : ∀ k, right.lookup k = none → ms₁.lookup k = ms.lookup k := by
    intro k hk
    rw [hlookup₁ k, hk]
    rfl
  obtain ⟨ms', hsecond, hms', hlookup'⟩ := applyTo?_dropped hleft hms₁ fun k hk hnone => by
    rw [hsame k hnone]
    exact hgone k hk hnone
  refine ⟨ms', ?_, hms', fun k => ?_⟩
  · rw [diff, Patch.applyTo?_append, hfirst, Option.bind_some, hsecond]
  · rw [hlookup' k]
    cases hnew : right.lookup k with
    | none =>
      rw [hsame k hnew]
      cases left.lookup k <;> simp [patchedMember]
    | some new =>
      rw [if_neg (by simp), hlookup₁ k, hnew]
      rfl

/-! ## 6. Lists -/

/-- Surplus elements all go from the same position. -/
theorem applyTo?_replicate_remove (front : List Json) : ∀ rest : List Json,
    Patch.applyTo? (List.replicate rest.length (.remove [.index front.length]))
        (.arr (front ++ rest)) =
      some (.arr front)
  | [] => by rw [List.append_nil]; rfl
  | item :: rest => by
    have hremove : (PatchOp.remove [.index front.length]).applyTo? (.arr (front ++ item :: rest)) =
        some (.arr (front ++ rest)) := by
      change (if front.length < (front ++ item :: rest).length then
        some (Json.arr ((front ++ item :: rest).eraseIdx front.length)) else none) = _
      rw [if_pos (by simp), List.eraseIdx_append_of_length_le (Nat.le_refl _), Nat.sub_self,
        List.eraseIdx_cons_zero]
    rw [List.length_cons, List.replicate_succ, Patch.applyTo?_cons, hremove, Option.bind_some,
      applyTo?_replicate_remove front rest]

/-- The patch works on the elements from a position on, those before it are left alone. -/
theorem applyTo?_diffItems : ∀ {right left rest front : List Json}, rest.length = left.length →
    (∀ (n : Nat) old new r, left[n]? = some old → right[n]? = some new → rest[n]? = some r →
      ∃ r', (diff old new).applyTo? r = some r') →
    ∃ rest', (diffItems front.length left right).applyTo? (.arr (front ++ rest)) =
        some (.arr (front ++ rest')) ∧ rest'.length = right.length ∧
      ∀ (n : Nat) new, right[n]? = some new →
        rest'[n]? = patchedMember left[n]? (some new) rest[n]?
  | [], left, rest, front, hlength, _ => by
    refine ⟨[], ?_, rfl, fun n new h => absurd h (by simp)⟩
    rw [diffItems, ← hlength, applyTo?_replicate_remove, List.append_nil]
  | item :: right, [], rest, front, hlength, _ => by
    obtain rfl := List.eq_nil_of_length_eq_zero hlength
    have hadd : (PatchOp.add [.index front.length] item).applyTo? (.arr (front ++ [])) =
        some (.arr (front ++ [item])) := by
      change (if front.length ≤ (front ++ []).length then
        some (Json.arr ((front ++ []).insertIdx front.length item)) else none) = _
      rw [if_pos (by simp), List.append_nil, List.insertIdx_length_self]
    obtain ⟨rest', happly, hlength', hitems⟩ :=
      @applyTo?_diffItems right [] [] (front ++ [item]) rfl
        fun n old new r hold => absurd hold (by simp)
    refine ⟨item :: rest', ?_, by simp [hlength'], fun n new hnew => ?_⟩
    · rw [diffItems, Patch.applyTo?_append]
      rw [Patch.applyTo?_cons, hadd, Option.bind_some, Patch.applyTo?_nil, Option.bind_some]
      rw [List.length_append, List.append_nil, List.append_assoc] at happly
      exact happly
    · cases n with
      | zero => simpa [patchedMember] using hnew
      | succ n => simpa using hitems n new (by simpa using hnew)
  | item :: right, old :: left, rest, front, hlength, h => by
    -- The first element of `rest` is patched in its place, and then belongs to the front.
    obtain ⟨r, rest, rfl⟩ := List.exists_cons_of_length_eq_add_one hlength
    obtain ⟨r', hr'⟩ := h 0 old item r rfl rfl rfl
    have hplace : (front ++ r :: rest)[front.length]? = some r := by simp
    have hset : (front ++ r :: rest).set front.length r' = front ++ [r'] ++ rest := by simp
    have hhead := Patch.applyTo?_under_index (fun op hop => inside_of_mem_diff hop) hplace hr'
    rw [hset] at hhead
    obtain ⟨rest', happly, hlength', hitems⟩ :=
      @applyTo?_diffItems right left rest (front ++ [r'])
        (by simpa using hlength) fun n old new r hold hnew hr =>
          h (n + 1) old new r (by simpa using hold) (by simpa using hnew) (by simpa using hr)
    refine ⟨r' :: rest', ?_, by simp [hlength'], fun n new hnew => ?_⟩
    · rw [diffItems, Patch.applyTo?_append]
      rw [hhead, Option.bind_some, List.tail_cons]
      rw [List.length_append] at happly
      rw [List.append_cons front r' rest']
      exact happly
    · cases n with
      | zero =>
        rw [Option.some.inj (hnew : some item = some new)] at hr'
        simpa [patchedMember] using hr'.symm
      | succ n => simpa using hitems n new (by simpa using hnew)

/-- **Patching a list.**  If what both sides have can be patched, the patch can be carried out on a
list as long as the left side, and each element is patched by itself. -/
theorem applyTo?_diff_arr {left right items : List Json} (hlength : items.length = left.length)
    (hboth : ∀ (n : Nat) old new item, left[n]? = some old → right[n]? = some new →
      items[n]? = some item → ∃ item', (diff old new).applyTo? item = some item') :
    ∃ items', (diff (.arr left) (.arr right)).applyTo? (.arr items) = some (.arr items') ∧
      items'.length = right.length ∧
      ∀ (n : Nat) new, right[n]? = some new →
        items'[n]? = patchedMember left[n]? (some new) items[n]? := by
  obtain ⟨items', happly, hrest⟩ := @applyTo?_diffItems right left items [] hlength hboth
  exact ⟨items', by rw [diff]; exact happly, hrest⟩

end Json
end InjectionWebhook
