/-
# What look-ups say of ascending entries

Where keys ascend, a list of entries is told by its look-ups: lists whose look-ups are related are
related entry by entry (`Entries.forall₂_of_lookup`), and lists with the same look-ups are the same
(`Entries.eq_of_lookup`).  So ascending entries are a map as they are (`Dict.entries_ofList`).
-/
import InjectionWebhook.Dict
import Mathlib.Data.List.Forall2
import Mathlib.Data.List.Pairwise

namespace InjectionWebhook
namespace Entries

/-- Where keys ascend, no two things have one key. -/
theorem eq_of_key {α : Type*} {key : α → String} {l : List α}
    (h : (l.map key).Pairwise (· < ·)) {a b : α} (ha : a ∈ l) (hb : b ∈ l) (hkey : key a = key b) :
    a = b := by
  by_contra hne
  have hkeys : l.Pairwise fun a b => key a ≠ key b := by
    refine (List.pairwise_map.mp h).imp fun {a b} hlt heq => ?_
    exact String.lt_irrefl _ (heq ▸ hlt)
  have : Std.Symm fun a b : α => key a ≠ key b := ⟨fun _ _ => Ne.symm⟩
  exact hkeys.forall ha hb hne hkey

variable {α β : Type}

/-- **Look-ups say all about ascending members.**  Where the look-ups of two lists are related, the
lists are related member by member. -/
theorem forall₂_of_lookup {R : α → β → Prop} :
    ∀ {l : List (String × α)} {l' : List (String × β)}, Ascending l → Ascending l' →
      (∀ k, Option.Rel R (l.lookup k) (l'.lookup k)) →
      List.Forall₂ (fun m e => m.1 = e.1 ∧ R m.2 e.2) l l'
  | [], [], _, _, _ => .nil
  | [], (k, v) :: l', _, _, h => by
    have hk := h k
    rw [lookup_cons_ite, if_pos rfl] at hk
    exact absurd hk (by simp)
  | (k, v) :: l, [], _, _, h => by
    have hk := h k
    rw [lookup_cons_ite, if_pos rfl] at hk
    exact absurd hk (by simp)
  | (k, v) :: l, (k', v') :: l', hl, hl', h => by
    have hkey : k = k' := by
      by_contra hne
      by_cases hlt : k < k'
      · have hk := h k
        rw [lookup_cons_ite, if_pos rfl, lookup_cons_ite, if_neg hne,
          lookup_tail_of_not_lt hl' (Std.not_lt.mpr (Std.le_of_lt hlt))] at hk
        exact absurd hk (by simp)
      · have hk := h k'
        rw [lookup_cons_ite, if_neg (Ne.symm hne), lookup_cons_ite, if_pos rfl,
          lookup_tail_of_not_lt hl hlt] at hk
        exact absurd hk (by simp)
    subst hkey
    have hhead := h k
    rw [lookup_cons_ite, if_pos rfl, lookup_cons_ite, if_pos rfl] at hhead
    refine .cons ⟨rfl, by simpa using hhead⟩ ?_
    refine forall₂_of_lookup (List.pairwise_cons.mp hl).2 (List.pairwise_cons.mp hl').2 fun k₀ => ?_
    by_cases hk₀ : k₀ = k
    · rw [hk₀, lookup_tail_of_not_lt hl (String.lt_irrefl k),
        lookup_tail_of_not_lt hl' (String.lt_irrefl k)]
      exact .none
    · have hrest := h k₀
      rwa [lookup_cons_ite, if_neg hk₀, lookup_cons_ite, if_neg hk₀] at hrest

/-- Ascending members with the same look-ups are the same. -/
theorem eq_of_lookup {l l' : List (String × α)} (hl : Ascending l) (hl' : Ascending l')
    (h : ∀ k, l.lookup k = l'.lookup k) : l = l' := by
  have hrel : ∀ k, Option.Rel Eq (l.lookup k) (l'.lookup k) := by
    intro k
    rw [h k]
    cases l'.lookup k with
    | none => exact .none
    | some v => exact .some rfl
  refine List.forall₂_eq_eq_eq ▸ (forall₂_of_lookup hl hl' hrel).imp ?_
  rintro ⟨k, v⟩ ⟨k', v'⟩ ⟨rfl, rfl⟩
  rfl

theorem insert_of_lookup {k : String} {v : α} {l : List (String × α)} (hl : Ascending l)
    (h : l.lookup k = some v) : insert k v l = l := by
  refine eq_of_lookup (ascending_insert hl) hl fun k' => ?_
  rw [lookup_insert]
  by_cases hk : k' = k
  · rw [if_pos hk, hk, h]
  · rw [if_neg hk]

theorem insert_insert {l : List (String × α)} (hl : Ascending l) (k : String) (v v' : α) :
    insert k v' (insert k v l) = insert k v' l := by
  refine eq_of_lookup (ascending_insert (ascending_insert hl)) (ascending_insert hl) fun k' => ?_
  simp only [lookup_insert]
  by_cases hk : k' = k
  · rw [if_pos hk, if_pos hk]
  · rw [if_neg hk, if_neg hk, if_neg hk]

/-- Lists with the same keys ascend together. -/
theorem ascending_of_forall₂ {l : List (String × α)} {l' : List (String × β)}
    (h : List.Forall₂ (fun e e' => e.1 = e'.1) l l') (hl : Ascending l) : Ascending l' := by
  have hkeys : l.map (·.1) = l'.map (·.1) := by
    induction h with
    | nil => rfl
    | cons hkey _ ih =>
      rw [List.map_cons, List.map_cons, hkey, ih (List.pairwise_cons.mp hl).2]
  unfold Ascending at hl ⊢
  rwa [← List.pairwise_map, hkeys, List.pairwise_map] at hl

/-- Lists that are related member by member have related look-ups. -/
theorem rel_lookup {R : α → β → Prop} {l : List (String × α)} {l' : List (String × β)}
    (h : List.Forall₂ (fun e e' => e.1 = e'.1 ∧ R e.2 e'.2) l l') (k : String) :
    Option.Rel R (l.lookup k) (l'.lookup k) := by
  induction h with
  | nil => exact .none
  | @cons e e' l l' hhead _ ih =>
    rw [lookup_cons_ite, lookup_cons_ite, ← hhead.1]
    by_cases hk : k = e.1
    · rw [if_pos hk, if_pos hk]
      exact .some hhead.2
    · rw [if_neg hk, if_neg hk]
      exact ih

end Entries

/-- Ascending entries are a map as they are. -/
theorem Dict.entries_ofList {α : Type} {l : List (String × α)} (h : Entries.Ascending l) :
    (ofList l).entries = l :=
  Entries.eq_of_lookup (ofList l).ascending h (get?_ofList h)

end InjectionWebhook
