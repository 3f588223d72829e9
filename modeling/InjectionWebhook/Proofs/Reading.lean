/-
# What decoders make of documents

A decoder looks at parts of a text in the order in which they stand.  On a document, where nothing is
wrong with the parts themselves, the order does not matter: what is read can be said by elements and
by look-ups.

* `Decoder.list_ofJson_iff`, `Decoder.dict_ofJson_iff`: a list is read element by element, a map key
  by key;
* `Decoder.object_ofJson_iff`: a record is read member by member (`Layout.readMember`);
* `Decoder.openRecord_ofJson_iff`: a record that keeps what it does not know keeps all members but its
  own;
* `Decoder.any_ofJson`: a document is read as it is.
-/
import InjectionWebhook.Json.Record
import InjectionWebhook.Proofs.Patching

namespace InjectionWebhook

/-- Two steps succeed if both do. -/
theorem bind_eq_ok {ε α β : Type} {x : Except ε α} {f : α → Except ε β} {b : β} :
    (x >>= f) = .ok b ↔ ∃ a, x = .ok a ∧ f a = .ok b := by
  cases x with
  | error e => simp [bind, Except.bind]
  | ok a => simp [bind, Except.bind]

theorem map_eq_ok {ε α β : Type} {x : Except ε α} {f : α → β} {b : β} :
    x.map f = .ok b ↔ ∃ a, x = .ok a ∧ f a = b := by
  cases x with
  | error e => simp [Except.map]
  | ok a => simp [Except.map]

theorem mapError_eq_ok {ε ε' α : Type} {x : Except ε α} {f : ε → ε'} {a : α} :
    x.mapError f = .ok a ↔ x = .ok a := by
  cases x <;> simp [Except.mapError]

theorem toOption_eq_some_iff {ε α : Type} {x : Except ε α} {a : α} :
    x.toOption = some a ↔ x = .ok a := by
  cases x <;> simp [Except.toOption]

/-- A name that can be read is gone on with. -/
theorem read_name_bind {β : Type} (text : String) (next : String → Except Flaw β) :
    ((MemberName.name text).read >>= next) = next text := rfl

/-- Going through a list succeeds if every step does. -/
theorem mapM_eq_ok {ε α β : Type} {f : α → Except ε β} : ∀ {l : List α} {ys : List β},
    l.mapM f = .ok ys ↔ List.Forall₂ (fun a y => f a = .ok y) l ys
  | [], ys => by
    rw [List.mapM_nil, List.forall₂_nil_left_iff]
    exact ⟨fun h => (Except.ok.inj h).symm, fun h => congrArg Except.ok h.symm⟩
  | a :: l, ys => by
    rw [List.mapM_cons, bind_eq_ok, List.forall₂_cons_left_iff]
    constructor
    · rintro ⟨y, hy, hrest⟩
      obtain ⟨ys', hys', heq⟩ := bind_eq_ok.mp hrest
      exact ⟨y, ys', hy, mapM_eq_ok.mp hys', (Except.ok.inj heq).symm⟩
    · rintro ⟨y, ys', hy, hys', rfl⟩
      exact ⟨y, hy, bind_eq_ok.mpr ⟨ys', mapM_eq_ok.mpr hys', rfl⟩⟩

namespace Json.Written

/-! ## 2. Documents as they stand -/

theorem ofItems_eq : ∀ items : List Json, ofItems items = items.map ofJson
  | [] => rfl
  | item :: items => by rw [ofItems, ofItems_eq items, List.map_cons]

theorem ofMembers_eq : ∀ members : List (String × Json),
    ofMembers members = members.map fun m => (.name m.1, ofJson m.2)
  | [] => rfl
  | (key, value) :: members => by rw [ofMembers, ofMembers_eq members, List.map_cons]

mutual

/-- Nothing is wrong with the parts of a document. -/
theorem isWhole_ofJson : ∀ j : Json, (ofJson j).isWhole = true
  | .arr items => by
    rw [ofJson, isWhole, areWhole_ofItems items]
    rfl
  | .obj members => by
    rw [ofJson, isWhole, membersAreWhole_ofMembers members]
    rfl
  | .null | .bool _ | .int _ | .decimal _ | .str _ => rfl

theorem areWhole_ofItems : ∀ items : List Json, areWhole (ofItems items) = true
  | [] => rfl
  | item :: items => by
    rw [ofItems, areWhole, isWhole_ofJson item, areWhole_ofItems items]
    rfl

theorem membersAreWhole_ofMembers : ∀ members : List (String × Json),
    membersAreWhole (ofMembers members) = true
  | [] => rfl
  | (key, value) :: members => by
    rw [ofMembers, membersAreWhole, isWhole_ofJson value, membersAreWhole_ofMembers members]
    rfl

end

/-- Any document can be passed over. -/
theorem pass_ofJson (j : Json) : (ofJson j).pass = .ok () := by
  rw [pass, isWhole_ofJson]
  rfl

end Json.Written

namespace Decoder

open Json (Written)
open Json.Written (ofItems_eq ofMembers_eq)

variable {α : Type}

/-! ## 3. Lists, maps and nothing -/

/-- **A list is read element by element.** -/
theorem list_ofJson_iff {d : Decoder α} {j : Json} {xs : List α} :
    (list d).ofJson j = .ok xs ↔
      ∃ items, j = .arr items ∧ List.Forall₂ (fun item x => d.ofJson item = .ok x) items xs := by
  cases j with
  | arr items =>
    have hread : (list d).ofJson (.arr items) = (items.map Written.ofJson).mapM d := by
      rw [← ofItems_eq]
      change ((Written.ofItems items).mapM d >>= fun values => .ok values) = _
      cases (Written.ofItems items).mapM d <;> rfl
    rw [hread, mapM_eq_ok, List.forall₂_map_left_iff]
    simp only [Json.arr.injEq, exists_eq_left']
    rfl
  | _ => simp [Decoder.ofJson, Written.ofJson, list]

/-- **A map is read key by key.** -/
theorem dict_ofJson_iff {d : Decoder α} {j : Json} {m : Dict α} (hj : j.Canonical) :
    (dict d).ofJson j = .ok m ↔
      ∃ ms, j = .obj ms ∧
        ∀ k, Option.Rel (fun v a => d.ofJson v = .ok a) (ms.lookup k) (m.get? k) := by
  cases j with
  | obj ms =>
    have hms : Entries.Ascending ms := (Json.canonical_obj.mp hj).1
    let entry (e : String × Json) : Except Flaw (String × α) :=
      (d.ofJson e.2).map fun v => (e.1, v)
    have hentry : ∀ e e', entry e = .ok e' ↔ e.1 = e'.1 ∧ d.ofJson e.2 = .ok e'.2 := by
      rintro ⟨k, j⟩ ⟨k', v'⟩
      rw [map_eq_ok]
      constructor
      · rintro ⟨v, hv, heq⟩
        obtain ⟨rfl, rfl⟩ := Prod.mk.inj heq
        exact ⟨rfl, hv⟩
      · rintro ⟨rfl, hv⟩
        exact ⟨v', hv, rfl⟩
    have hread : (dict d).ofJson (.obj ms) = (ms.mapM entry).map .ofList := by
      have hmember : (fun m : MemberName × Written => do return (← m.1.read, ← d m.2)) ∘
          (fun e => (.name e.1, Written.ofJson e.2)) = entry := by
        funext e
        change (d.ofJson e.2 >>= fun v => Except.ok (e.1, v)) = entry e
        simp only [entry]
        cases d.ofJson e.2 <;> rfl
      change ((Written.ofMembers ms).mapM (fun m => do return (← m.1.read, ← d m.2)) >>=
        fun entries => Except.ok (Dict.ofList entries)) = _
      rw [ofMembers_eq, List.mapM_map, hmember]
      cases ms.mapM entry <;> rfl
    have hentries : ∀ l : List (String × α),
        List.Forall₂ (fun e e' => e.1 = e'.1 ∧ d.ofJson e.2 = .ok e'.2) ms l →
          (Dict.ofList l).entries = l := by
      intro l hl
      exact Dict.entries_ofList (Entries.ascending_of_forall₂ (hl.imp fun _ _ h => h.1) hms)
    rw [hread, map_eq_ok]
    simp only [mapM_eq_ok, hentry, Json.obj.injEq, exists_eq_left']
    constructor
    · rintro ⟨l, hl, rfl⟩ k
      rw [Dict.get?, hentries l hl]
      exact Entries.rel_lookup hl k
    · intro h
      have hall := Entries.forall₂_of_lookup hms m.ascending h
      exact ⟨m.entries, hall, Dict.ext_entries (hentries _ hall)⟩
  | _ => simp [Decoder.ofJson, Written.ofJson, dict]

/-- Anything but nothing is read as it is where nothing may stand. -/
theorem nullable_ofJson_of_ne {d : Decoder α} {j : Json} (h : j ≠ .null) :
    d.nullable.ofJson j = (d.ofJson j).map some := by
  cases j with
  | null => exact absurd rfl h
  | _ => rfl

theorem nullable_ofJson_null (d : Decoder α) : d.nullable.ofJson .null = .ok none := rfl

end Decoder

namespace Json

open Entries (Ascending)

theorem Written.extent_ofJson (j : Json) : (Written.ofJson j).extent = {} := by
  cases j <;> rfl

end Json

/-! ## 4. Records -/

namespace Layout

open Entries (Ascending)
open Json (Written)

variable {σ : Type}

/-- What one member of a document does to a record. -/
def readMember (l : Layout σ) (s : σ) (m : String × Json) : Except Flaw σ :=
  match l.fields.find? (·.key = m.1) with
  | none => l.other m.1 (.ofJson m.2) s
  | some f => f.read none (.ofJson m.2) s

/-- A member that was not given before is read, and then the others. -/
theorem readMembers_cons (l : Layout σ) {seen : List String} {m : String × Json}
    (hseen : m.1 ∉ seen) (rest : List (MemberName × Written)) (s : σ) :
    ∃ seen', (∀ k ∈ seen', k = m.1 ∨ k ∈ seen) ∧
      l.readMembers none seen ((.name m.1, .ofJson m.2) :: rest) s =
        (l.readMember s m >>= l.readMembers none seen' rest) := by
  rw [readMembers, read_name_bind, readMember]
  cases hfield : l.fields.find? fun f => decide (f.key = m.1) with
  | none => exact ⟨seen, fun _ => .inr, rfl⟩
  | some f =>
    have honce : ¬ (l.once && seen.contains m.1) = true := by simp [hseen]
    have hbehind : (if rest.isEmpty then none else (Written.ofJson m.2).extent.stop) = none := by
      rw [Written.extent_ofJson, ite_self]
    refine ⟨m.1 :: seen, fun k hk => List.mem_cons.mp hk, ?_⟩
    dsimp only
    rw [if_neg honce, hbehind]

/-- Ascending members are read one after the other; none of them is given twice. -/
theorem readMembers_ofMembers (l : Layout σ) {ms : List (String × Json)} (hms : Ascending ms) :
    ∀ {seen : List String}, (∀ m ∈ ms, m.1 ∉ seen) → ∀ s : σ,
      (l.readMembers none seen (Written.ofMembers ms) s).map (·.2) = ms.foldlM l.readMember s := by
  induction ms with
  | nil => exact fun _ _ => rfl
  | cons m ms ih =>
    intro seen hseen s
    obtain ⟨hfirst, hms⟩ := List.pairwise_cons.mp hms
    obtain ⟨seen', hseen', hread⟩ := l.readMembers_cons (hseen m List.mem_cons_self)
      (Written.ofMembers ms) s
    have hrest : ∀ e ∈ ms, e.1 ∉ seen' := by
      intro e he hmem
      rcases hseen' _ hmem with heq | hmem
      · exact String.lt_irrefl _ (heq ▸ hfirst e he)
      · exact hseen e (List.mem_cons_of_mem _ he) hmem
    rw [Written.ofMembers, hread, List.foldlM_cons]
    cases l.readMember s m with
    | error e => rfl
    | ok s' => exact ih hms hrest s'

/-- **A record that must give nothing is read member by member.** -/
theorem readObject_ofMembers (l : Layout σ) (hneed : ∀ f ∈ l.fields, f.need ≠ .always)
    {ms : List (String × Json)} (hms : Ascending ms) (start : σ) :
    l.readObject start {} (Written.ofMembers ms) = ms.foldlM l.readMember start := by
  have hmissing : ∀ seen, l.missing? seen = none := by
    intro seen
    rw [missing?, List.find?_eq_none.mpr, Option.map_none]
    intro f hf
    simp [hneed f hf]
  rw [← l.readMembers_ofMembers hms (fun _ _ => List.not_mem_nil) start]
  have henter : ({} : Outline).enter = .ok () := rfl
  have hleave : ({} : Outline).leave = .ok () := rfl
  simp only [readObject, henter, hleave, hmissing]
  cases l.readMembers none [] (Written.ofMembers ms) start <;> rfl

end Layout

namespace Decoder

open Entries (Ascending)
open Json (Written)

/-- **A record of which nothing must be given is read member by member.** -/
theorem object_ofJson_iff {σ : Type} {name : String} {start s : σ} {fields : List (Field σ)}
    (hneed : ∀ f ∈ fields, f.need ≠ .always) {j : Json} (hj : j.Canonical) :
    (object name start fields).ofJson j = .ok s ↔
      ∃ ms, j = .obj ms ∧ ms.foldlM (Layout.readMember { fields }) start = .ok s := by
  cases j with
  | obj ms =>
    have hread := Layout.readObject_ofMembers { fields } hneed (Json.canonical_obj.mp hj).1 start
    simp only [Json.obj.injEq, exists_eq_left', ← hread]
    rfl
  | arr items => exact iff_of_false (fun h => nomatch h) (by simp)
  | _ => simp [Decoder.ofJson, Written.ofJson, object]

/-! ## 5. Any document -/

/-- A member behind all others is put at the end. -/
theorem insert_append {k : String} {v : Json} : ∀ {l : List (String × Json)}, (∀ m ∈ l, m.1 < k) →
    Entries.insert k v l = l ++ [(k, v)]
  | [], _ => rfl
  | m :: l, h => by
    have hm := h m List.mem_cons_self
    have hnot : ¬ k < m.1 := Std.not_lt.mpr (Std.le_of_lt hm)
    have hne : k ≠ m.1 := fun heq => String.lt_irrefl _ (heq ▸ hm : k < k)
    rw [Entries.insert, if_neg hnot, if_neg hne,
      insert_append fun m hm => h m (List.mem_cons_of_mem _ hm), List.cons_append]

mutual

/-- **A document is read as it is.** -/
theorem any_ofJson : ∀ {j : Json}, j.Canonical → any.ofJson j = .ok j
  | .arr items, h => by
    have hread := anyItems_ofItems (Json.canonical_arr.mp h)
    change (anyItems (Written.ofItems items) >>= fun values => Except.ok (Json.arr values)) = _
    rw [hread]
    rfl
  | .obj ms, h => by
    have hread := @anyMembers_ofMembers ms [] (Json.canonical_obj.mp h).1
      (fun m hm => Json.canonicalMembers_iff.mp h.2 m hm)
    change (anyMembers (Written.ofMembers ms) [] >>= fun values => Except.ok (Json.obj values)) = _
    rw [hread]
    rfl
  | .null, _ | .bool _, _ | .int _, _ | .decimal _, _ | .str _, _ => rfl

theorem anyItems_ofItems : ∀ {items : List Json}, (∀ j ∈ items, j.Canonical) →
    anyItems (Written.ofItems items) = .ok items
  | [], _ => rfl
  | item :: items, h => by
    have hitem := any_ofJson (h item List.mem_cons_self)
    have hrest := anyItems_ofItems fun j hj => h j (List.mem_cons_of_mem _ hj)
    rw [Written.ofItems, anyItems, hrest]
    change (any.ofJson item >>= fun v => Except.ok (v :: items)) = _
    rw [hitem]
    rfl

theorem anyMembers_ofMembers : ∀ {ms read : List (String × Json)}, Ascending (read ++ ms) →
    (∀ m ∈ ms, m.2.Canonical) → anyMembers (Written.ofMembers ms) read = .ok (read ++ ms)
  | [], read, _, _ => by rw [List.append_nil]; rfl
  | (k, v) :: ms, read, hread, h => by
    have hv := any_ofJson (h _ List.mem_cons_self)
    have hbefore : ∀ m ∈ read, m.1 < k := by
      intro m hm
      exact (List.pairwise_append.mp hread).2.2 m hm (k, v) List.mem_cons_self
    have hrest := @anyMembers_ofMembers ms (read ++ [(k, v)])
      (by rwa [List.append_assoc]) fun m hm => h m (List.mem_cons_of_mem _ hm)
    change (any.ofJson v >>= fun v =>
      anyMembers (Written.ofMembers ms) (Entries.insert k v read)) = _
    rw [hv]
    change anyMembers (Written.ofMembers ms) (Entries.insert k v read) = _
    rw [insert_append hbefore, hrest, List.append_assoc]
    rfl

end

/-! ## 6. Records that keep what they do not know -/

/-- What a record with one field that may be left out reads there. -/
def readField {σ : Type} (f : Field σ) (start : σ) : Option Json → Except Flaw σ
  | none => .ok start
  | some j => f.read none (.ofJson j) start

/-- The layout of a record with one field that keeps all other members, the last one first. -/
def keeping {σ : Type} (f : Field σ) : Layout (σ × List (String × Json)) where
  fields := [{ f with read := fun behind w s => do return (← f.read behind w s.1, s.2) }]
  once := true
  other key w s := do return (s.1, (key, ← any w) :: s.2)

theorem readMember_keeping {σ : Type} (f : Field σ) {s : σ} {kept : List (String × Json)}
    {m : String × Json} (hm : m.2.Canonical) :
    (keeping f).readMember (s, kept) m =
      if f.key = m.1 then (f.read none (.ofJson m.2) s).map (·, kept) else .ok (s, m :: kept) := by
  have hany : any (.ofJson m.2) = .ok m.2 := any_ofJson hm
  by_cases hkey : f.key = m.1
  · rw [if_pos hkey, Layout.readMember, keeping, List.find?_cons_of_pos (by simpa using hkey)]
    change (f.read none (.ofJson m.2) s >>= fun s => Except.ok (s, kept)) = _
    cases f.read none (.ofJson m.2) s <;> rfl
  · rw [if_neg hkey, Layout.readMember, keeping, List.find?_cons_of_neg (by simpa using hkey)]
    change (any (.ofJson m.2) >>= fun v => Except.ok (s, (m.1, v) :: kept)) = _
    rw [hany]
    rfl

theorem foldlM_keeping {σ : Type} (f : Field σ) : ∀ {ms : List (String × Json)}, Ascending ms →
    (∀ m ∈ ms, m.2.Canonical) → ∀ (s : σ) (kept : List (String × Json)),
      ms.foldlM (keeping f).readMember (s, kept) =
        (readField f s (ms.lookup f.key)).map
          (·, (Json.eraseMember f.key ms).reverse ++ kept)
  | [], _, _, _, _ => rfl
  | m :: ms, hms, h, s, kept => by
    have hrest := (List.pairwise_cons.mp hms).2
    have ih := foldlM_keeping f hrest fun m hm => h m (List.mem_cons_of_mem _ hm)
    rw [List.foldlM_cons, readMember_keeping f (h m List.mem_cons_self), Entries.lookup_cons_ite]
    by_cases hkey : f.key = m.1
    · have herase : Json.eraseMember f.key (m :: ms) = Json.eraseMember f.key ms :=
        List.filter_cons_of_neg (by simp [hkey])
      rw [if_pos hkey, if_pos hkey, herase, readField]
      cases f.read none (.ofJson m.2) s with
      | error e => rfl
      | ok s' =>
        change ms.foldlM (keeping f).readMember (s', kept) = _
        rw [ih, hkey, Entries.lookup_tail_of_not_lt hms (String.lt_irrefl m.1)]
        rfl
    · have herase : Json.eraseMember f.key (m :: ms) = m :: Json.eraseMember f.key ms :=
        List.filter_cons_of_pos (by simpa using Ne.symm hkey)
      rw [if_neg hkey, if_neg hkey, herase, List.reverse_cons, List.append_assoc]
      exact ih s (m :: kept)

/-- **All members but the field are kept as they are.** -/
theorem openRecord_ofJson_iff {σ : Type} {name : String} {start s : σ} {f : Field σ}
    (hneed : f.need ≠ .always) {j : Json} (hj : j.Canonical) {others : List (String × Json)} :
    (openRecord name start [f]).ofJson j = .ok (s, others) ↔
      ∃ ms, j = .obj ms ∧ readField f start (ms.lookup f.key) = .ok s ∧
        Json.eraseMember f.key ms = others := by
  cases j with
  | obj ms =>
    have hms := (Json.canonical_obj.mp hj).1
    have hread := (keeping f).readObject_ofMembers (by simpa [keeping] using hneed) hms (start, [])
    rw [foldlM_keeping f hms fun m hm => Json.canonicalMembers_iff.mp hj.2 m hm] at hread
    change ((keeping f).readObject (start, []) {} (Written.ofMembers ms) >>= fun r =>
      Except.ok (r.1, r.2.reverse)) = .ok (s, others) ↔ _
    rw [hread]
    simp only [Json.obj.injEq, exists_eq_left']
    cases readField f start (ms.lookup f.key) with
    | error e => exact iff_of_false (fun h => nomatch h) (by simp)
    | ok s' =>
      change Except.ok (s', ((Json.eraseMember f.key ms).reverse ++ []).reverse) = .ok (s, others) ↔ _
      simp
  | _ => simp [Decoder.ofJson, Written.ofJson, openRecord]

end Decoder

end InjectionWebhook
