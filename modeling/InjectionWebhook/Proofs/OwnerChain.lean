/-
# The chain of controllers

What `Owner.resolve` computes is said here without it.  From an object the chain goes to its
controller, if that is one of the recognised workloads, and from there on in the same way
(`Owner.Climbs`).  It ends at an object without a controller or with an unrecognised one
(`Owner.Ends`), or a fetch on the way fails (`Owner.Fails`).

The walk itself keeps only kinds and names of what it fetched.  That is as good as whole references,
since the recognised kinds differ (`apiVersion_eq_of_kind_eq`), so it stops in one of four ways
(`stop_resolve`).  Both notions meet because a chain that gets stuck somewhere is the only one
(`Climbs.exists_append_of_stuck`), and because it never comes back to where it was if the same
reference is always answered the same (`Climbs.nodup_of_stuck`).
-/
import InjectionWebhook.Admission.Owner
import InjectionWebhook.Cluster.Script
import InjectionWebhook.Proofs.Steps
import Mathlib.Data.List.Nodup

namespace InjectionWebhook
namespace Owner

open Dialogue

/-! ## 1. The chain -/

/-- What a reference points to. -/
def target (o : OwnerReference) : String × String × String := (o.apiVersion, o.kind, o.name)

/-- The metadata behind each reference. -/
abbrev Reader : Type := OwnerReference → Except Failure ObjectMeta

/-- What is answered for the owners of objects in a namespace. -/
def reader (answer : (q : Query) → q.Answer) (ns : String) : Reader :=
  fun o => answer (.owner o ns)

/-- References to the same object have the same answer. -/
def Reader.Consistent (fetch : Reader) : Prop :=
  ∀ o o' : OwnerReference, target o = target o' → fetch o = fetch o'

/-- The first owner marked as the controller of an object. -/
def controllerOf? (m : ObjectMeta) : Option OwnerReference :=
  (m.ownerReferences.getD []).find? fun o => o.controller = some true

/-- The owner the chain goes on with. -/
def next? (m : ObjectMeta) : Option OwnerReference :=
  (controllerOf? m).filter fun o => IsWorkload o

/-- The chain leads from an object through owners, each of which can be fetched, to the last. -/
inductive Climbs (fetch : Reader) : ObjectMeta → List OwnerReference → ObjectMeta → Prop
  | stay (m : ObjectMeta) : Climbs fetch m [] m
  | up {m m' last : ObjectMeta} {o : OwnerReference} {refs : List OwnerReference}
      (next : next? m = some o) (fetched : fetch o = .ok m') (rest : Climbs fetch m' refs last) :
      Climbs fetch m (o :: refs) last

/-- The chain ends at an object after at most `depth` fetched owners, no two of them the same. -/
structure Ends (fetch : Reader) (depth : Nat) (m : ObjectMeta) (refs : List OwnerReference)
    (last : ObjectMeta) : Prop where
  climbs : Climbs fetch m refs last
  ended : next? last = none
  within : refs.length ≤ depth
  distinct : (refs.map target).Nodup

/-- Fewer than `depth` owners are fetched, and fetching the next fails. -/
def Fails (fetch : Reader) (depth : Nat) (m : ObjectMeta) (e : Failure) : Prop :=
  ∃ refs last o, Climbs fetch m refs last ∧ next? last = some o ∧ refs.length < depth ∧
    fetch o = .error e

/-- The chain is not at its end after `depth` fetched owners. -/
def Exceeds (fetch : Reader) (depth : Nat) (m : ObjectMeta) : Prop :=
  ∃ refs last o, Climbs fetch m refs last ∧ next? last = some o ∧ refs.length = depth

/-- The chain comes back to an owner that was fetched. -/
def Returns (fetch : Reader) (m : ObjectMeta) (o : OwnerReference) : Prop :=
  ∃ refs last, Climbs fetch m refs last ∧ next? last = some o ∧ target o ∈ refs.map target

/-- The workload that the last object stands for if it has no controller: itself. -/
def reached (m : ObjectMeta) (refs : List OwnerReference) (last : ObjectMeta) : Workload :=
  match refs.getLast? with
  | none => { kind := "", name := m.name.getD "" }
  | some o => { kind := o.kind, name := last.name.getD o.name }

/-- The workload of an object from which the chain leads through `refs` to its end. -/
def workload (m : ObjectMeta) (refs : List OwnerReference) (last : ObjectMeta) : Workload :=
  match controllerOf? last with
  | none => reached m refs last
  | some o => { kind := o.kind, name := o.name }

/-- A cluster by script answers for an object, however the reference to it is written. -/
theorem consistent_script (script : ClusterScript) (ns : String) :
    (reader script.answer ns).Consistent := by
  intro o o' h
  obtain ⟨hversion, hkind, hname⟩ : o.apiVersion = o'.apiVersion ∧ o.kind = o'.kind ∧
      o.name = o'.name := by simpa [target] using h
  simp only [reader, ClusterScript.answer, hversion, hkind, hname]

/-! ## 2. Climbing -/

section Climbs

variable {fetch : Reader} {m m' last last' : ObjectMeta} {o : OwnerReference}
  {refs refs' : List OwnerReference}

theorem next?_eq_some :
    next? m = some o ↔ controller? m.ownerReferences = some o ∧ isRecognised o = true := by
  rw [next?, Option.filter_eq_some_iff, isRecognised_iff, decide_eq_true_eq]
  rfl

/-- One owner more. -/
theorem Climbs.snoc (h : Climbs fetch m refs last) (next : next? last = some o)
    (fetched : fetch o = .ok last') : Climbs fetch m (refs ++ [o]) last' := by
  induction h with
  | stay m => exact .up next fetched (.stay last')
  | up next' fetched' _ ih => exact .up next' fetched' (ih next)

/-- A chain can be cut before any of its owners. -/
theorem Climbs.split (h : Climbs fetch m (refs ++ o :: refs') last) :
    ∃ mid above, Climbs fetch m refs mid ∧ next? mid = some o ∧ fetch o = .ok above ∧
      Climbs fetch above refs' last := by
  induction refs generalizing m with
  | nil =>
    cases h with
    | up next fetched rest => exact ⟨m, _, .stay m, next, fetched, rest⟩
  | cons first refs ih =>
    cases h with
    | up next fetched rest =>
      obtain ⟨mid, above, hmid, hnext, hfetched, habove⟩ := ih rest
      exact ⟨mid, above, .up next fetched hmid, hnext, hfetched, habove⟩

theorem Climbs.isRecognised (h : Climbs fetch m refs last) :
    ∀ o ∈ refs, Owner.isRecognised o = true := by
  induction h with
  | stay m => simp
  | up next _ _ ih =>
    intro o ho
    rcases List.mem_cons.mp ho with rfl | ho
    · exact (next?_eq_some.mp next).2
    · exact ih o ho

/-- The chain gets no further from an object. -/
def Stuck (fetch : Reader) (m : ObjectMeta) : Prop :=
  ∀ o m', next? m = some o → fetch o ≠ .ok m'

theorem stuck_of_ended (h : next? m = none) : Stuck fetch m := by
  intro o m' next
  rw [h] at next
  exact absurd next (by simp)

theorem stuck_of_failed {e : Failure} (next : next? m = some o) (failed : fetch o = .error e) :
    Stuck fetch m := by
  intro o' m' next'
  obtain rfl : o = o' := Option.some.inj (next.symm.trans next')
  rw [failed]
  simp

/-- From where it gets no further a chain does not climb. -/
theorem Climbs.eq_nil (h : Climbs fetch m refs last) (stuck : Stuck fetch m) :
    refs = [] ∧ last = m := by
  cases h with
  | stay m => exact ⟨rfl, rfl⟩
  | up next fetched _ => exact absurd fetched (stuck _ _ next)

/-- **There is only one way up**: a chain that gets stuck goes on from where any other one is. -/
theorem Climbs.exists_append_of_stuck (h : Climbs fetch m refs last) (stuck : Stuck fetch last)
    (h' : Climbs fetch m refs' last') :
    ∃ more, refs = refs' ++ more ∧ Climbs fetch last' more last := by
  induction h' generalizing refs with
  | stay m => exact ⟨refs, rfl, h⟩
  | up next fetched _ ih =>
    cases h with
    | stay m => exact absurd fetched (stuck _ _ next)
    | up next' fetched' rest =>
      obtain rfl := Option.some.inj (next.symm.trans next')
      obtain rfl := Except.ok.inj (fetched.symm.trans fetched')
      obtain ⟨more, rfl, hmore⟩ := ih rest
      exact ⟨more, rfl, hmore⟩

/-- Where any other chain goes on, the one that gets stuck is at its last object or goes on too. -/
theorem Climbs.eq_or_append_of_stuck (h : Climbs fetch m refs last) (stuck : Stuck fetch last)
    (h' : Climbs fetch m refs' last') (next : next? last' = some o) :
    (refs = refs' ∧ last = last') ∨ ∃ more, refs = refs' ++ o :: more := by
  obtain ⟨more, rfl, hmore⟩ := h.exists_append_of_stuck stuck h'
  cases hmore with
  | stay m => exact .inl ⟨List.append_nil _, rfl⟩
  | up next' _ _ =>
    obtain rfl := Option.some.inj (next.symm.trans next')
    exact .inr ⟨_, rfl⟩

/-- **A chain that gets stuck does not come back to where it was.**  It would go the same way again
from there and get stuck nowhere. -/
theorem Climbs.nodup_of_stuck (consistent : fetch.Consistent) (h : Climbs fetch m refs last)
    (stuck : Stuck fetch last) : (refs.map target).Nodup := by
  induction h with
  | stay m => exact List.nodup_nil
  | @up m m' last o refs next fetched rest ih =>
    rw [List.map_cons, List.nodup_cons]
    refine ⟨fun hagain => ?_, ih stuck⟩
    obtain ⟨o', ho', htarget⟩ := List.mem_map.mp hagain
    obtain ⟨before, after, rfl⟩ := List.append_of_mem ho'
    obtain ⟨mid, above, -, -, hfetched, habove⟩ := rest.split
    obtain rfl : m' = above := by
      rw [consistent o' o htarget, fetched] at hfetched
      exact Except.ok.inj hfetched
    obtain ⟨more, hmore, -⟩ := habove.exists_append_of_stuck stuck rest
    have hlength := congrArg List.length hmore
    simp only [List.length_append, List.length_cons] at hlength
    omega

/-- What is on a chain was fetched. -/
theorem Climbs.ne_error (h : Climbs fetch m refs last) (ho : o ∈ refs) (e : Failure) :
    fetch o ≠ .error e := by
  obtain ⟨before, after, rfl⟩ := List.append_of_mem ho
  obtain ⟨-, above, -, -, hfetched, -⟩ := h.split
  rw [hfetched]
  simp

theorem not_mem_target_of_nodup (h : ((refs ++ o :: refs').map target).Nodup) :
    target o ∉ refs.map target := by
  rw [List.map_append, List.map_cons] at h
  exact fun hagain => (List.nodup_append.mp h).2.2 _ hagain _ List.mem_cons_self rfl

end Climbs

/-! ## 3. Where the walk stops -/

/-- The recognised kinds differ: each has one API version. -/
theorem apiVersion_eq_of_kind_eq {o o' : OwnerReference} (ho : isRecognised o = true)
    (ho' : isRecognised o' = true) (h : o.kind = o'.kind) : o.apiVersion = o'.apiVersion := by
  have hkinds : (recognised.map Prod.snd).Nodup := by decide
  rw [isRecognised, List.contains_iff_mem] at ho ho'
  exact congrArg Prod.fst (List.inj_on_of_nodup_map hkinds ho ho' h)

/-- What the walk remembers of the owners it fetched. -/
def remembered (refs : List OwnerReference) : List (String × String) :=
  (refs.map fun o => (o.kind, o.name)).reverse

/-- **The walk remembers enough**: among recognised owners, kind and name tell what a reference
points to. -/
theorem contains_remembered_iff {o : OwnerReference} {refs : List OwnerReference}
    (ho : isRecognised o = true) (hrefs : ∀ o' ∈ refs, isRecognised o' = true) :
    (remembered refs).contains (o.kind, o.name) = true ↔ target o ∈ refs.map target := by
  rw [remembered, List.contains_iff_mem, List.mem_reverse, List.mem_map, List.mem_map]
  constructor
  · rintro ⟨o', ho', h⟩
    obtain ⟨hkind, hname⟩ := Prod.mk.inj h
    refine ⟨o', ho', ?_⟩
    rw [target, target, apiVersion_eq_of_kind_eq (hrefs o' ho') ho hkind, hkind, hname]
  · rintro ⟨o', ho', h⟩
    exact ⟨o', ho', congrArg Prod.snd h⟩

theorem remembered_concat (refs : List OwnerReference) (o : OwnerReference) :
    remembered (refs ++ [o]) = (o.kind, o.name) :: remembered refs := by
  rw [remembered, List.map_append, List.reverse_append]
  rfl

theorem reached_concat (m last : ObjectMeta) (refs : List OwnerReference) (o : OwnerReference) :
    reached m (refs ++ [o]) last = { kind := o.kind, name := last.name.getD o.name } := by
  rw [reached, List.getLast?_concat]

/-- The ways in which a walk can stop, with its result and the owners it asked for. -/
inductive Stop (fetch : Reader) (depth : Nat) (m : ObjectMeta) :
    Except Failure Workload → List OwnerReference → Prop
  /-- The chain is at its end. -/
  | ended {refs : List OwnerReference} {last : ObjectMeta} (ends : Ends fetch depth m refs last) :
      Stop fetch depth m (.ok (workload m refs last)) refs
  /-- As many owners are fetched as may be. -/
  | deep {refs : List OwnerReference} {last : ObjectMeta} {o : OwnerReference}
      (climbs : Climbs fetch m refs last) (next : next? last = some o)
      (full : refs.length = depth) : Stop fetch depth m (.error (tooDeep depth)) refs
  /-- The next owner is one of those that are fetched. -/
  | repeated {refs : List OwnerReference} {last : ObjectMeta} {o : OwnerReference}
      (climbs : Climbs fetch m refs last) (next : next? last = some o)
      (again : target o ∈ refs.map target) : Stop fetch depth m (.error (cycle o)) refs
  /-- The next owner cannot be fetched. -/
  | failed {refs : List OwnerReference} {last : ObjectMeta} {o : OwnerReference} {e : Failure}
      (climbs : Climbs fetch m refs last) (next : next? last = some o)
      (room : refs.length < depth) (refused : fetch o = .error e) :
      Stop fetch depth m (.error e) (refs ++ [o])

section Walk

variable {answer : (q : Query) → q.Answer} {ns : String} {depth : Nat} {m : ObjectMeta}

/-- The walk goes on from where a chain is.  The induction is on the walk; what carries it is that
the walk remembers exactly the chain so far. -/
theorem stop_walk {left : Nat} {visited : List (String × String)} {current : Workload}
    {owners : Option (List OwnerReference)} {refs : List OwnerReference} {last : ObjectMeta}
    (climbs : Climbs (reader answer ns) m refs last) (distinct : (refs.map target).Nodup)
    (hleft : refs.length + left = depth) (hvisited : visited = remembered refs)
    (hcurrent : current = reached m refs last) (howners : owners = last.ownerReferences) :
    ∃ more,
      Stop (reader answer ns) depth m
        ((walk ns depth left visited current owners).run answer).1 (refs ++ more) ∧
      ((walk ns depth left visited current owners).run answer).2 =
        more.map (Query.owner · ns) := by
  fun_induction walk ns depth left visited current owners generalizing refs last with
  | case1 left visited current owners hnone =>
    subst hcurrent howners
    have hnone : controllerOf? last = none := hnone
    have hworkload : workload m refs last = reached m refs last := by rw [workload, hnone]
    refine ⟨[], ?_, rfl⟩
    rw [List.append_nil, run_done, ← hworkload]
    exact .ended ⟨climbs, by rw [next?, hnone]; rfl, by omega, distinct⟩
  | case2 left visited current owners o hsome hstrange =>
    subst howners
    have hsome : controllerOf? last = some o := hsome
    have hstrange : ¬ IsWorkload o := by
      rw [← isRecognised_iff]
      simpa using hstrange
    have hworkload : workload m refs last = { kind := o.kind, name := o.name } := by
      rw [workload, hsome]
    refine ⟨[], ?_, rfl⟩
    rw [List.append_nil, run_done, ← hworkload]
    exact .ended ⟨climbs, by simp [next?, hsome, hstrange], by omega, distinct⟩
  | case3 visited current owners o hsome hknown =>
    subst howners
    have next : next? last = some o := next?_eq_some.mpr ⟨hsome, by simpa using hknown⟩
    refine ⟨[], ?_, rfl⟩
    rw [List.append_nil, run_done]
    exact .deep climbs next (by omega)
  | case4 visited current owners o hsome hknown left hagain =>
    subst hvisited howners
    have hknown : isRecognised o = true := by simpa using hknown
    refine ⟨[], ?_, rfl⟩
    rw [List.append_nil, run_done]
    exact .repeated climbs (next?_eq_some.mpr ⟨hsome, hknown⟩)
      ((contains_remembered_iff hknown climbs.isRecognised).mp hagain)
  | case5 visited current owners o hsome hknown left hfresh ih =>
    subst hvisited howners
    have hknown : isRecognised o = true := by simpa using hknown
    have next : next? last = some o := next?_eq_some.mpr ⟨hsome, hknown⟩
    have fresh : target o ∉ refs.map target := fun hagain =>
      hfresh ((contains_remembered_iff hknown climbs.isRecognised).mpr hagain)
    have distinct' : ((refs ++ [o]).map target).Nodup := by
      rw [List.map_append, List.map_singleton, ← List.concat_eq_append]
      exact distinct.concat fresh
    rw [run_ask]
    cases hfetch : answer (.owner o ns) with
    | error e => exact ⟨[o], .failed climbs next (by omega) hfetch, rfl⟩
    | ok above =>
      obtain ⟨more, hstop, hasked⟩ := ih above (climbs.snoc next hfetch) distinct'
        (by rw [List.length_append, List.length_singleton]; omega)
        (remembered_concat refs o).symm (reached_concat m above refs o).symm rfl
      refine ⟨o :: more, ?_, ?_⟩
      · rw [← List.append_cons] at hstop
        exact hstop
      · rw [List.map_cons, ← hasked]

/-- **The walk stops in one of four ways**, and asks for the owners on the chain in their order. -/
theorem stop_resolve (answer : (q : Query) → q.Answer) (ns : String) (m : ObjectMeta)
    (depth : Nat) :
    ∃ refs, Stop (reader answer ns) depth m ((resolve m ns depth).run answer).1 refs ∧
      ((resolve m ns depth).run answer).2 = refs.map (Query.owner · ns) :=
  stop_walk (.stay m) List.nodup_nil (Nat.zero_add depth) rfl rfl rfl

end Walk

/-! ## 4. What the walk computes -/

section Computed

variable {fetch : Reader} {depth : Nat} {m last : ObjectMeta} {refs : List OwnerReference}

/-- A walk along a chain that ends in time gives its workload. -/
theorem Stop.eq_of_ends {r : Except Failure Workload} {asked : List OwnerReference}
    (stop : Stop fetch depth m r asked) (ends : Ends fetch depth m refs last) :
    r = .ok (workload m refs last) := by
  have stuck : Stuck fetch last := stuck_of_ended ends.ended
  -- a walk that stopped early could have gone on: its next owner is on the chain
  have goesOn : ∀ {refs' last' o}, Climbs fetch m refs' last' → next? last' = some o →
      ∃ more, refs = refs' ++ o :: more := by
    intro refs' last' o climbs next
    rcases ends.climbs.eq_or_append_of_stuck stuck climbs next with ⟨-, rfl⟩ | hmore
    · exact absurd (ends.ended.symm.trans next) (by simp)
    · exact hmore
  cases stop with
  | ended ends' =>
    obtain ⟨more, rfl, hmore⟩ := ends.climbs.exists_append_of_stuck stuck ends'.climbs
    obtain ⟨rfl, rfl⟩ := hmore.eq_nil (stuck_of_ended ends'.ended)
    rw [List.append_nil]
  | deep climbs next full =>
    obtain ⟨more, rfl⟩ := goesOn climbs next
    have within := ends.within
    rw [List.length_append, List.length_cons] at within
    omega
  | repeated climbs next again =>
    obtain ⟨more, rfl⟩ := goesOn climbs next
    exact absurd again (not_mem_target_of_nodup ends.distinct)
  | failed climbs next room refused =>
    obtain ⟨more, rfl⟩ := goesOn climbs next
    exact absurd refused (ends.climbs.ne_error (by simp) _)

/-- A walk along a chain on which a fetch fails in time gives that failure. -/
theorem Stop.eq_of_fails {r : Except Failure Workload} {asked : List OwnerReference}
    {e : Failure} (consistent : fetch.Consistent) (stop : Stop fetch depth m r asked)
    (fails : Fails fetch depth m e) : r = .error e := by
  obtain ⟨refs, last, o, climbs, next, room, refused⟩ := fails
  have stuck : Stuck fetch last := stuck_of_failed next refused
  have distinct := climbs.nodup_of_stuck consistent stuck
  cases stop with
  | ended ends =>
    rcases ends.climbs.eq_or_append_of_stuck (stuck_of_ended ends.ended) climbs next with
      ⟨-, rfl⟩ | ⟨more, rfl⟩
    · exact absurd (ends.ended.symm.trans next) (by simp)
    · exact absurd refused (ends.climbs.ne_error (by simp) _)
  | deep climbs' next' full =>
    obtain ⟨rfl, -⟩ | ⟨more, rfl⟩ := climbs.eq_or_append_of_stuck stuck climbs' next'
    · omega
    · rw [List.length_append, List.length_cons] at room
      omega
  | repeated climbs' next' again =>
    obtain ⟨rfl, rfl⟩ | ⟨more, rfl⟩ := climbs.eq_or_append_of_stuck stuck climbs' next'
    · obtain rfl := Option.some.inj (next.symm.trans next')
      obtain ⟨o', ho', htarget⟩ := List.mem_map.mp again
      exact absurd ((consistent o' o htarget).trans refused) (climbs.ne_error ho' e)
    · exact absurd again (not_mem_target_of_nodup distinct)
  | failed climbs' next' room' refused' =>
    obtain ⟨rfl, rfl⟩ | ⟨more, rfl⟩ := climbs.eq_or_append_of_stuck stuck climbs' next'
    · obtain rfl := Option.some.inj (next.symm.trans next')
      obtain rfl := Except.error.inj (refused'.symm.trans refused)
      rfl
    · exact absurd refused' (climbs.ne_error (by simp) _)

/-- What the walk owes to the chain: the workload at its end, the failure on the way to it, or else
word of why there is no end. -/
structure Follows (fetch : Reader) (depth : Nat) (m : ObjectMeta) (r : Except Failure Workload) :
    Prop where
  /-- There is a workload exactly if the chain ends in time and without coming back. -/
  ended : ∀ w, r = .ok w ↔ ∃ refs last, Ends fetch depth m refs last ∧ w = workload m refs last
  /-- A failed fetch is the failure of the walk. -/
  failed : ∀ e, Fails fetch depth m e → r = .error e
  /-- Without an end and without a failed fetch the failure is the walk's own. -/
  otherwise : (∀ refs last, ¬ Ends fetch depth m refs last) → (∀ e, ¬ Fails fetch depth m e) →
    ∃ message, r = .error (.internal "owner" message)
  /-- Whatever failure there is, its cause is there: the walk does not take two owners for one. -/
  cause : ∀ e, r = .error e → Fails fetch depth m e ∨
    (e = tooDeep depth ∧ Exceeds fetch depth m) ∨ ∃ o, e = cycle o ∧ Returns fetch m o

theorem Stop.follows {r : Except Failure Workload} {asked : List OwnerReference}
    (consistent : fetch.Consistent) (stop : Stop fetch depth m r asked) :
    Follows fetch depth m r where
  ended w := by
    constructor
    · rintro rfl
      cases stop with
      | ended ends => exact ⟨_, _, ends, rfl⟩
    · rintro ⟨refs, last, ends, rfl⟩
      exact stop.eq_of_ends ends
  failed e fails := stop.eq_of_fails consistent fails
  otherwise endless unfailing := by
    cases stop with
    | ended ends => exact absurd ends (endless _ _)
    | deep climbs next full => exact ⟨_, rfl⟩
    | repeated climbs next again => exact ⟨_, rfl⟩
    | failed climbs next room refused =>
      exact absurd ⟨_, _, _, climbs, next, room, refused⟩ (unfailing _)
  cause e he := by
    subst he
    cases stop with
    | deep climbs next full => exact .inr (.inl ⟨rfl, _, _, _, climbs, next, full⟩)
    | repeated climbs next again => exact .inr (.inr ⟨_, rfl, _, _, climbs, next, again⟩)
    | failed climbs next room refused => exact .inl ⟨_, _, _, climbs, next, room, refused⟩

/-- **The walk computes the chain of controllers**, for every cluster that answers the same for the
same reference. -/
theorem follows_resolve {answer : (q : Query) → q.Answer} {ns : String}
    (consistent : (reader answer ns).Consistent) (m : ObjectMeta) (depth : Nat) :
    Follows (reader answer ns) depth m ((resolve m ns depth).run answer).1 := by
  obtain ⟨refs, stop, -⟩ := stop_resolve answer ns m depth
  exact stop.follows consistent

end Computed

/-- A ReplicaSet that a Deployment controls, and the Deployment. -/
def rolloutCluster : ClusterScript :=
  { owners := .ofList
      [ ("apps/v1 ReplicaSet web-7d", .ok
          { ownerReferences := some
              [{ apiVersion := "apps/v1", kind := "Deployment", name := "web", uid := "d",
                 controller := some true }] }),
        ("apps/v1 Deployment web", .ok { name := some "web" }) ] }

/-- A Pod that a node owns, and that a ReplicaSet controls. -/
def rolloutPod : ObjectMeta :=
  { name := some "web-7d-x"
    ownerReferences := some
      [ { apiVersion := "v1", kind := "Node", name := "n1", uid := "n" },
        { apiVersion := "apps/v1", kind := "ReplicaSet", name := "web-7d", uid := "r",
          controller := some true } ] }

/-- The Pod belongs to the Deployment, which is found with two fetches and not with one. -/
theorem follows_rolloutPod :
    (reader rolloutCluster.answer "shop").Consistent ∧
      Follows (reader rolloutCluster.answer "shop") 2 rolloutPod
        (.ok { kind := "Deployment", name := "web" }) ∧
      Follows (reader rolloutCluster.answer "shop") 1 rolloutPod (.error (tooDeep 1)) := by
  have consistent := consistent_script rolloutCluster "shop"
  exact ⟨consistent, follows_resolve consistent rolloutPod 2,
    follows_resolve consistent rolloutPod 1⟩

end Owner
end InjectionWebhook
