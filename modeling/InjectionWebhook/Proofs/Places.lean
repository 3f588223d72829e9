/-
# Places do not matter

What stands in a text has places, and a document that stands in no text has none.  Decoders use them
for their complaints only: whether something can be read, and as what, is the same wherever it stands.

* `Json.Written.bare` takes the places away;
* `Decoder.Placeless`: a decoder reads what is left just as well.  Decoders of scalars are placeless,
  and those of lists, maps and records are if the decoders of their parts are.
-/
import InjectionWebhook.Proofs.Reading

namespace InjectionWebhook

/-! ## 1. Results without complaints -/

section

variable {ε α β : Type}

theorem toOption_bind (x : Except ε α) (f : α → Except ε β) :
    (x >>= f).toOption = x.toOption.bind fun a => (f a).toOption := by
  cases x <;> rfl

theorem toOption_map (x : Except ε α) (f : α → β) : (x.map f).toOption = x.toOption.map f := by
  cases x <;> rfl

/-- Steps that agree up to complaints lead to the same. -/
theorem toOption_bind_congr {x y : Except ε α} {f g : α → Except ε β}
    (hx : x.toOption = y.toOption) (hf : ∀ a, (f a).toOption = (g a).toOption) :
    (x >>= f).toOption = (y >>= g).toOption := by
  rw [toOption_bind, toOption_bind, hx]
  exact congrArg _ (funext hf)

theorem toOption_mapM_congr {γ δ : Type} {f : α → Except ε γ} {g : δ → Except ε γ} {h : α → δ}
    (hfg : ∀ a, (g (h a)).toOption = (f a).toOption) (l : List α) :
    ((l.map h).mapM g).toOption = (l.mapM f).toOption := by
  induction l with
  | nil => rfl
  | cons a l ih =>
    rw [List.map_cons, List.mapM_cons, List.mapM_cons]
    exact toOption_bind_congr (hfg a) fun _ => toOption_bind_congr ih fun _ => rfl

end

/-! ## 2. Taking places away -/

/-- The outline without its places. -/
def Outline.bare (o : Outline) : Outline := { closed := o.closed, deep := o.deep }

theorem Outline.toOption_enter (o : Outline) : o.bare.enter.toOption = o.enter.toOption := by
  rw [enter, enter]
  cases hdeep : o.deep <;> simp [Outline.bare, hdeep, Except.toOption]

theorem Outline.toOption_leave (o : Outline) : o.bare.leave.toOption = o.leave.toOption := by
  rw [leave, leave]
  cases hclosed : o.closed <;> simp [Outline.bare, hclosed, Except.toOption]

namespace Json.Written

mutual

/-- What stands in a text, without its places. -/
def bare : Written → Written
  | .leaf _ value => .leaf {} value
  | .arr o items => .arr o.bare (bareItems items)
  | .obj o members => .obj o.bare (bareMembers members)
  | .broken => .broken

/-- The elements of a list, without their places. -/
def bareItems : List Written → List Written
  | [] => []
  | item :: rest => bare item :: bareItems rest

/-- The members of an object, without their places. -/
def bareMembers : List (MemberName × Written) → List (MemberName × Written)
  | [] => []
  | (name, value) :: rest => (name, bare value) :: bareMembers rest

end

theorem bareItems_eq (items : List Written) : bareItems items = items.map bare := by
  induction items with
  | nil => rfl
  | cons item items ih => rw [bareItems, ih, List.map_cons]

theorem bareMembers_eq (members : List (MemberName × Written)) :
    bareMembers members = members.map fun m => (m.1, m.2.bare) := by
  induction members with
  | nil => rfl
  | cons m members ih => rw [bareMembers, ih, List.map_cons]

mutual

/-- What is whole stays whole. -/
theorem isWhole_bare : ∀ w : Written, w.bare.isWhole = w.isWhole
  | .leaf _ _ => rfl
  | .arr o items => by
    rw [bare, isWhole, isWhole, areWhole_bareItems items]
    rfl
  | .obj o members => by
    rw [bare, isWhole, isWhole, membersAreWhole_bareMembers members]
    rfl
  | .broken => rfl

theorem areWhole_bareItems : ∀ items : List Written, areWhole (bareItems items) = areWhole items
  | [] => rfl
  | item :: items => by
    rw [bareItems, areWhole, areWhole, isWhole_bare item, areWhole_bareItems items]

theorem membersAreWhole_bareMembers : ∀ members : List (MemberName × Written),
    membersAreWhole (bareMembers members) = membersAreWhole members
  | [] => rfl
  | (_, value) :: members => by
    rw [bareMembers, membersAreWhole, membersAreWhole, isWhole_bare value,
      membersAreWhole_bareMembers members]

end

theorem pass_bare (w : Written) : w.bare.pass = w.pass := by rw [pass, pass, isWhole_bare]

mutual

/-- A document has no places. -/
theorem bare_ofJson : ∀ j : Json, (ofJson j).bare = ofJson j
  | .arr items => by
    rw [ofJson, bare, bareItems_ofItems items]
    rfl
  | .obj members => by
    rw [ofJson, bare, bareMembers_ofMembers members]
    rfl
  | .null | .bool _ | .int _ | .decimal _ | .str _ => rfl

theorem bareItems_ofItems : ∀ items : List Json, bareItems (ofItems items) = ofItems items
  | [] => rfl
  | item :: items => by rw [ofItems, bareItems, bare_ofJson item, bareItems_ofItems items]

theorem bareMembers_ofMembers : ∀ members : List (String × Json),
    bareMembers (ofMembers members) = ofMembers members
  | [] => rfl
  | (_, value) :: members => by
    rw [ofMembers, bareMembers, bare_ofJson value, bareMembers_ofMembers members]

end

end Json.Written

/-! ## 3. Decoders -/

open Json (Written)

namespace Decoder

variable {α : Type}

/-- What a decoder makes of a part does not depend on places. -/
def Placeless (d : Decoder α) : Prop := ∀ w, (d w.bare).toOption = (d w).toOption

/-- What stands somewhere is read like the document that it says. -/
theorem Placeless.eq_ok_of_ofJson {d : Decoder α} (hd : d.Placeless) {w : Written} {j : Json}
    {a : α} (hw : w.bare = .ofJson j) (h : d.ofJson j = .ok a) : d w = .ok a := by
  rw [ofJson, ← hw] at h
  rw [← toOption_eq_some_iff, ← hd w, h]
  rfl

theorem placeless_text : text.Placeless := by
  intro w
  rcases w with ⟨_, m | j⟩ | _ | _ | _
  · rfl
  · cases j <;> rfl
  all_goals rfl

theorem placeless_flag : flag.Placeless := by
  intro w
  rcases w with ⟨_, m | j⟩ | _ | _ | _
  · rfl
  · cases j <;> rfl
  all_goals rfl

theorem placeless_nullable {d : Decoder α} (hd : d.Placeless) : d.nullable.Placeless := by
  intro w
  have hother : ((d w.bare).map some).toOption = ((d w).map some).toOption := by
    rw [toOption_map, toOption_map, hd w]
  rcases w with ⟨_, m | j⟩ | _ | _ | _
  · exact hother
  · cases j
    · rfl
    all_goals exact hother
  all_goals exact hother

theorem placeless_list {d : Decoder α} (hd : d.Placeless) : (list d).Placeless := by
  intro w
  rcases w with _ | ⟨o, items⟩ | _ | _
  · rfl
  · rw [Written.bare, Written.bareItems_eq]
    refine toOption_bind_congr o.toOption_enter fun _ => ?_
    exact toOption_bind_congr (toOption_mapM_congr hd items) fun _ =>
      toOption_bind_congr o.toOption_leave fun _ => rfl
  all_goals rfl

theorem placeless_dict {d : Decoder α} (hd : d.Placeless) : (dict d).Placeless := by
  intro w
  rcases w with _ | _ | ⟨o, members⟩ | _
  · rfl
  · rfl
  · rw [Written.bare, Written.bareMembers_eq]
    refine toOption_bind_congr o.toOption_enter fun _ => ?_
    refine toOption_bind_congr (toOption_mapM_congr (fun m => ?_) members) fun _ =>
      toOption_bind_congr o.toOption_leave fun _ => rfl
    exact toOption_bind_congr rfl fun _ => toOption_bind_congr (hd m.2) fun _ => rfl
  · rfl

mutual

theorem toOption_any_bare : ∀ w : Written, (any w.bare).toOption = (any w).toOption
  | .leaf _ (.ok _) => rfl
  | .leaf _ (.error _) => rfl
  | .arr o items => by
    rw [Written.bare, any, any]
    refine toOption_bind_congr o.toOption_enter fun _ => ?_
    exact toOption_bind_congr (toOption_anyItems_bare items) fun _ =>
      toOption_bind_congr o.toOption_leave fun _ => rfl
  | .obj o members => by
    rw [Written.bare, any, any]
    refine toOption_bind_congr o.toOption_enter fun _ => ?_
    exact toOption_bind_congr (toOption_anyMembers_bare members []) fun _ =>
      toOption_bind_congr o.toOption_leave fun _ => rfl
  | .broken => rfl

theorem toOption_anyItems_bare : ∀ items : List Written,
    (anyItems (Written.bareItems items)).toOption = (anyItems items).toOption
  | [] => rfl
  | item :: items => by
    rw [Written.bareItems, anyItems, anyItems]
    exact toOption_bind_congr (toOption_any_bare item) fun _ =>
      toOption_bind_congr (toOption_anyItems_bare items) fun _ => rfl

theorem toOption_anyMembers_bare : ∀ (members : List (MemberName × Written))
    (read : List (String × Json)),
    (anyMembers (Written.bareMembers members) read).toOption = (anyMembers members read).toOption
  | [], _ => rfl
  | (name, w) :: members, read => by
    rw [Written.bareMembers, anyMembers, anyMembers]
    exact toOption_bind_congr rfl fun _ => toOption_bind_congr (toOption_any_bare w) fun _ =>
      toOption_anyMembers_bare members _

end

/-- Any document is read wherever it stands. -/
theorem placeless_any : any.Placeless := toOption_any_bare

end Decoder

/-! ## 4. Records -/

variable {σ α : Type}

/-- What a field makes of its value does not depend on places. -/
def Field.Placeless (f : Field σ) : Prop :=
  ∀ behind behind' w s, (f.read behind w.bare s).toOption = (f.read behind' w s).toOption

theorem Field.placeless_plain {key : String} {d : Decoder α} {set : α → σ → σ} (hd : d.Placeless) :
    (plain key d set).Placeless := by
  intro _ _ w s
  change ((d w.bare).map _).toOption = ((d w).map _).toOption
  rw [toOption_map, toOption_map, hd w]

theorem Field.placeless_constant (key expected : String) :
    (constant key expected : Field σ).Placeless := by
  intro behind behind' w s
  refine toOption_bind_congr (Decoder.placeless_text w) fun found => ?_
  by_cases hfound : found = expected
  · rw [if_pos hfound, if_pos hfound]
  · rw [if_neg hfound, if_neg hfound]
    rfl

namespace Layout

/-- What comes of the members of an object does not depend on places. -/
structure Placeless (l : Layout σ) : Prop where
  fields : ∀ f ∈ l.fields, f.Placeless
  other : ∀ key w s, (l.other key w.bare s).toOption = (l.other key w s).toOption

variable {l : Layout σ}

theorem Placeless.readMembers (hl : l.Placeless) (stop stop' : Mark)
    (members : List (MemberName × Written)) : ∀ (seen : List String) (s : σ),
    (l.readMembers stop seen (Written.bareMembers members) s).toOption =
      (l.readMembers stop' seen members s).toOption := by
  induction members with
  | nil => exact fun _ _ => rfl
  | cons m members ih =>
    intro seen s
    obtain ⟨name, w⟩ := m
    rw [Written.bareMembers, Layout.readMembers, Layout.readMembers]
    refine toOption_bind_congr rfl fun key => ?_
    cases hfield : l.fields.find? fun f => decide (f.key = key) with
    | none => exact toOption_bind_congr (hl.other key w s) fun _ => ih seen _
    | some f =>
      have hf := hl.fields f (List.mem_of_find?_eq_some hfield)
      dsimp only
      split
      · rfl
      · exact toOption_bind_congr (hf _ _ w s) fun _ => ih (key :: seen) _

theorem Placeless.readObject (hl : l.Placeless) (start : σ) (o : Outline)
    (members : List (MemberName × Written)) :
    (l.readObject start o.bare (Written.bareMembers members)).toOption =
      (l.readObject start o members).toOption := by
  refine toOption_bind_congr o.toOption_enter fun _ => ?_
  refine toOption_bind_congr (hl.readMembers _ _ members [] start) fun r => ?_
  refine toOption_bind_congr o.toOption_leave fun _ => ?_
  cases l.missing? r.1 <;> rfl

/-- Members that are passed over have no say. -/
theorem placeless_of_fields {fields : List (Field σ)} (h : ∀ f ∈ fields, f.Placeless) (once : Bool) :
    Layout.Placeless { fields, once } where
  fields := h
  other _ w _ := by
    change (w.bare.pass >>= _).toOption = _
    rw [Written.pass_bare]

end Layout

namespace Field

theorem Placeless.readItems {fields : List (Field σ)} : (∀ f ∈ fields, f.Placeless) →
    ∀ (items : List Written) (s : σ),
      (Field.readItems fields (items.map Written.bare) s).toOption =
        (Field.readItems fields items s).toOption := by
  induction fields with
  | nil => exact fun _ _ _ => rfl
  | cons f fields ih =>
    rintro h (_ | ⟨w, items⟩) s
    · rfl
    · rw [List.map_cons, Field.readItems, Field.readItems]
      exact toOption_bind_congr (h f List.mem_cons_self _ _ w s) fun _ =>
        ih (fun f hf => h f (List.mem_cons_of_mem _ hf)) items _

/-- Elements behind the last field are refused, wherever they stand. -/
theorem toOption_refuseSurplus (count : Nat) (items : List Written) :
    (refuseSurplus count items).toOption = if items.isEmpty then some () else none := by
  rcases items with _ | ⟨w, items⟩
  · rfl
  · rcases w with ⟨⟨_ | _, _⟩, _⟩ | ⟨⟨⟨_ | _, _⟩, _, _⟩, _⟩ | ⟨⟨⟨_ | _, _⟩, _, _⟩, _⟩ | _ <;> rfl

end Field

namespace Decoder

theorem placeless_object {name : String} {start : σ} {fields : List (Field σ)}
    (h : ∀ f ∈ fields, f.Placeless) : (object name start fields).Placeless := by
  intro w
  rcases w with _ | ⟨o, items⟩ | ⟨o, members⟩ | _
  · rfl
  · exact toOption_bind_congr o.toOption_enter fun _ => rfl
  · exact (Layout.placeless_of_fields h false).readObject start o members
  · rfl

theorem placeless_record {name : String} {start : σ} {fields : List (Field σ)}
    (h : ∀ f ∈ fields, f.Placeless) : (record name start fields).Placeless := by
  intro w
  rcases w with _ | ⟨o, items⟩ | ⟨o, members⟩ | _
  · rfl
  · rw [Written.bare, Written.bareItems_eq]
    refine toOption_bind_congr o.toOption_enter fun _ => ?_
    refine toOption_bind_congr (Field.Placeless.readItems h items start) fun s => ?_
    refine toOption_bind_congr ?_ fun _ => toOption_bind_congr o.toOption_leave fun _ => ?_
    · rw [Field.toOption_refuseSurplus, Field.toOption_refuseSurplus, ← List.map_drop,
        List.isEmpty_map]
    · rw [List.length_map]
      cases Field.firstNeeded? (fields.drop items.length) items.length <;> rfl
  · exact (Layout.placeless_of_fields h true).readObject start o members
  · rfl

end Decoder
end InjectionWebhook
