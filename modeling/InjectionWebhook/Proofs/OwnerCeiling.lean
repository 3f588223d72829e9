/-
# Raising the ceiling of the walk

Two walks with different ceilings make the same rounds until the lower one stops at its ceiling
(`Owner.round_raise`, `Owner.run_walkFrom_raise`).  So whatever the lower one finds, and any failure
but that of its own ceiling, stays as it is under the higher one (`Owner.raises_resolve`).

A chain that comes back to an owner has no end, and no ceiling is high enough for it.  A walk along
it fails at every ceiling: up to the first return it is the ceiling, and from there on it is the
circle (`Owner.run_resolve_of_firstReturn`).
-/
import InjectionWebhook.Proofs.Exits
import InjectionWebhook.Proofs.OwnerChain
import InjectionWebhook.Proofs.OwnerRounds
import Mathlib.Data.List.Induction

namespace InjectionWebhook
namespace Owner

open Dialogue

variable {answer : (q : Query) → q.Answer} {ns : String} {m last : ObjectMeta}
  {o : OwnerReference} {refs : List OwnerReference} {d d' : Nat} {s : Stand}

/-! ## 1. Two ceilings -/

/-- The failure at the ceiling is never that of a circle. -/
theorem tooDeep_ne_cycle (d : Nat) (o : OwnerReference) : tooDeep d ≠ cycle o := by
  intro h
  rw [tooDeep, cycle, Failure.internal.injEq] at h
  have hchars := congrArg (fun text => (String.toList text)[7]?) h.2
  simp only [String.toList_append, List.append_assoc] at hchars
  rw [List.getElem?_append_left (by decide +kernel),
    List.getElem?_append_left (by decide +kernel)] at hchars
  exact absurd hchars (by decide +kernel)

/-- A round is the same under a higher ceiling, unless it stops at the lower one. -/
theorem round_raise (h : d ≤ d') (s : Stand) :
    round d s = .stop (.error (tooDeep d)) ∨ round d' s = round d s := by
  rw [round, round]
  cases controller? s.owners with
  | none => exact .inr rfl
  | some o =>
    dsimp only
    split
    · exact .inr rfl
    · by_cases hfull : d ≤ s.visited.length
      · rw [if_pos hfull]
        exact .inl rfl
      · right
        by_cases hfull' : d' ≤ s.visited.length
        · omega
        · rw [if_neg hfull, if_neg hfull']

/-- A walk that stopped at its ceiling: all it asked for was answered. -/
def AtCeiling (answer : (q : Query) → q.Answer) (ns : String) (d : Nat)
    (run : Except Failure Workload × List Query) : Prop :=
  run.1 = .error (tooDeep d) ∧ ∀ o e, .owner o ns ∈ run.2 → reader answer ns o ≠ .error e

/-- **The same walk under a higher ceiling**: with the same result and the same questions, unless it
stopped at the lower one. -/
theorem run_walkFrom_raise (answer : (q : Query) → q.Answer) (ns : String) (h : d ≤ d')
    (s : Stand) :
    AtCeiling answer ns d ((walkFrom ns d s).run answer) ∨
      (walkFrom ns d' s).run answer = (walkFrom ns d s).run answer := by
  induction s using rounds_induction d with
  | hround s ih =>
    rw [walkFrom_eq ns d s, walkFrom_eq ns d' s]
    rcases round_raise h s with hceiling | hsame
    · rw [hceiling]
      exact .inl ⟨rfl, fun _ _ hasked => absurd hasked List.not_mem_nil⟩
    · rw [hsame]
      cases hround : round d s with
      | stop r => exact .inr rfl
      | fetch o =>
        dsimp only
        rw [run_ask, run_ask]
        cases hfetch : answer (.owner o ns) with
        | error e => exact .inr rfl
        | ok fetched =>
          rcases ih o fetched hround with ⟨hdeep, hanswered⟩ | hrest
          · refine .inl ⟨hdeep, fun o' e hasked hfailed => ?_⟩
            rcases List.mem_cons.mp hasked with hhead | hasked
            · obtain ⟨rfl, -⟩ := Query.owner.inj hhead
              exact absurd (hfetch.symm.trans hfailed) (by simp)
            · exact hanswered o' e hasked hfailed
          · dsimp only
            rw [hrest]
            exact .inr rfl

/-! ## 2. Along a chain -/

/-- Along a chain that does not come back, a walk gets to its last object. -/
theorem exists_stand_of_climbs (climbs : Climbs (reader answer ns) m refs last)
    (distinct : (refs.map target).Nodup) (within : refs.length ≤ d) :
    ∃ s : Stand, s.visited = remembered refs ∧ s.owners = last.ownerReferences ∧
      ((resolve m ns d).run answer).1 = ((walkFrom ns d s).run answer).1 := by
  induction refs using List.reverseRecOn generalizing last with
  | nil =>
    obtain ⟨⟩ := climbs
    exact ⟨.start m, rfl, rfl, rfl⟩
  | append_singleton refs o ih =>
    obtain ⟨mid, above, hmid, hnext, hfetched, habove⟩ := climbs.split
    obtain ⟨⟩ := habove
    rw [List.length_append, List.length_singleton] at within
    have hbefore : (refs.map target).Nodup := by
      rw [List.map_append] at distinct
      exact distinct.of_append_left
    obtain ⟨s, hvisited, howners, hrun⟩ := ih hmid hbefore (by omega)
    obtain ⟨hcontroller, hknown⟩ := next?_eq_some.mp hnext
    have hfetch : round d s = .fetch o := by
      refine round_eq_fetch_iff.mpr ⟨howners ▸ hcontroller, hknown, ?_, fun hagain => ?_⟩
      · rw [hvisited, remembered, List.length_reverse, List.length_map]
        omega
      · rw [hvisited, ← List.contains_iff_mem,
          contains_remembered_iff hknown hmid.isRecognised] at hagain
        exact not_mem_target_of_nodup distinct hagain
    refine ⟨s.up o last, ?_, rfl, ?_⟩
    · rw [remembered_concat, ← hvisited]
      rfl
    · have hreply : answer (.owner o ns) = .ok last := hfetched
      rw [hrun, walkFrom_eq ns d s, hfetch]
      dsimp only
      rw [run_ask, hreply]

/-- Where as many owners are fetched as may be, a walk that would go on stops. -/
theorem round_of_full (next : next? last = some o) (howners : s.owners = last.ownerReferences)
    (hfull : d ≤ s.visited.length) : round d s = .stop (.error (tooDeep d)) := by
  obtain ⟨hcontroller, hknown⟩ := next?_eq_some.mp next
  rw [round, howners, hcontroller]
  simp only [hknown, Bool.not_true, Bool.false_eq_true, if_false, hfull, if_true]

/-- Where there is room for more, a walk that would go back stops. -/
theorem round_of_again (next : next? last = some o) (howners : s.owners = last.ownerReferences)
    (hroom : s.visited.length < d) (hagain : s.visited.contains (o.kind, o.name) = true) :
    round d s = .stop (.error (cycle o)) := by
  obtain ⟨hcontroller, hknown⟩ := next?_eq_some.mp next
  rw [round, howners, hcontroller]
  simp only [hknown, Bool.not_true, Bool.false_eq_true, if_false, Nat.not_le.mpr hroom, hagain,
    if_true]

/-! ## 3. Chains that come back -/

/-- The chain leads through owners, no two of them the same, and then back to one of these. -/
structure FirstReturn (fetch : Reader) (m : ObjectMeta) (refs : List OwnerReference)
    (last : ObjectMeta) (o : OwnerReference) : Prop where
  climbs : Climbs fetch m refs last
  next : next? last = some o
  distinct : (refs.map target).Nodup
  again : target o ∈ refs.map target

/-- A chain goes through different owners, or it came back at some time for the first time. -/
theorem Climbs.nodup_or_firstReturn {fetch : Reader} (climbs : Climbs fetch m refs last) :
    (refs.map target).Nodup ∨ ∃ refs last o, FirstReturn fetch m refs last o := by
  induction refs using List.reverseRecOn generalizing last with
  | nil => exact .inl List.nodup_nil
  | append_singleton refs o ih =>
    obtain ⟨mid, above, hmid, hnext, -, -⟩ := climbs.split
    rcases ih hmid with hdistinct | hreturn
    · by_cases hagain : target o ∈ refs.map target
      · exact .inr ⟨refs, mid, o, hmid, hnext, hdistinct, hagain⟩
      · left
        rw [List.map_append, List.map_singleton, ← List.concat_eq_append]
        exact hdistinct.concat hagain
    · exact .inr hreturn

theorem Returns.exists_firstReturn {fetch : Reader} (h : Returns fetch m o) :
    ∃ refs last o, FirstReturn fetch m refs last o := by
  obtain ⟨refs, last, climbs, next, again⟩ := h
  rcases climbs.nodup_or_firstReturn with hdistinct | hreturn
  · exact ⟨refs, last, o, climbs, next, hdistinct, again⟩
  · exact hreturn

/-- A chain that goes on can be cut at any length, and goes on from there. -/
theorem Climbs.exists_take {fetch : Reader} (climbs : Climbs fetch m refs last)
    (next : next? last = some o) (hd : d ≤ refs.length) :
    ∃ mid o', Climbs fetch m (refs.take d) mid ∧ next? mid = some o' := by
  rcases Nat.lt_or_eq_of_le hd with hlt | rfl
  · have hsplit : refs = refs.take d ++ refs[d] :: refs.drop (d + 1) := by
      rw [List.getElem_cons_drop, List.take_append_drop]
    rw [hsplit] at climbs
    obtain ⟨mid, -, hmid, hnext, -, -⟩ := climbs.split
    exact ⟨mid, refs[d], hmid, hnext⟩
  · rw [List.take_length]
    exact ⟨last, o, climbs, next⟩

/-- **A walk along a chain that comes back** stops at its ceiling, or where the chain first comes
back if the ceiling is above that. -/
theorem run_resolve_of_firstReturn (h : FirstReturn (reader answer ns) m refs last o) (d : Nat) :
    ((resolve m ns d).run answer).1 =
      .error (if d ≤ refs.length then tooDeep d else cycle o) := by
  obtain ⟨climbs, next, distinct, again⟩ := h
  by_cases hd : d ≤ refs.length
  · obtain ⟨mid, o', hmid, hnext⟩ := climbs.exists_take next hd
    have hprefix : ((refs.take d).map target).Nodup := by
      rw [List.map_take]
      exact distinct.sublist (List.take_sublist d _)
    have hlength : (refs.take d).length = d := List.length_take_of_le hd
    obtain ⟨s, hvisited, howners, hrun⟩ :=
      exists_stand_of_climbs (d := d) hmid hprefix (Nat.le_of_eq hlength)
    have hfull : d ≤ s.visited.length := by
      rw [hvisited, remembered, List.length_reverse, List.length_map]
      omega
    rw [hrun, walkFrom_eq, round_of_full hnext howners hfull, if_pos hd]
    rfl
  · obtain ⟨s, hvisited, howners, hrun⟩ :=
      exists_stand_of_climbs (d := d) climbs distinct (by omega)
    have hroom : s.visited.length < d := by
      rw [hvisited, remembered, List.length_reverse, List.length_map]
      omega
    have hknown := (next?_eq_some.mp next).2
    have hagain : s.visited.contains (o.kind, o.name) = true := by
      rw [hvisited]
      exact (contains_remembered_iff hknown climbs.isRecognised).mpr again
    rw [hrun, walkFrom_eq, round_of_again next howners hroom hagain, if_neg hd]
    rfl

/-! ## 4. What a higher ceiling keeps -/

/-- What a walk keeps when its ceiling is raised. -/
structure Raises (answer : (q : Query) → q.Answer) (ns : String) (m : ObjectMeta) (d d' : Nat) :
    Prop where
  /-- A workload that was found is found, with the same questions. -/
  found : ∀ w, ((resolve m ns d).run answer).1 = .ok w →
    (resolve m ns d').run answer = (resolve m ns d).run answer
  /-- A failed fetch is the failure under both, after the same questions. -/
  failed : ∀ o e, .owner o ns ∈ ((resolve m ns d).run answer).2 →
    reader answer ns o = .error e →
      ((resolve m ns d).run answer).1 = .error e ∧
        (resolve m ns d').run answer = (resolve m ns d).run answer
  /-- A circle is the failure under both, after the same questions. -/
  circled : ∀ o, ((resolve m ns d).run answer).1 = .error (cycle o) →
    (resolve m ns d').run answer = (resolve m ns d).run answer
  /-- Where the chain comes back, both fail: low ceilings by the ceiling, the others by the circle
  at its first return. -/
  returns : ∀ o, Returns (reader answer ns) m o → ∃ n first,
    ∀ c, ((resolve m ns c).run answer).1 = .error (if c ≤ n then tooDeep c else cycle first)

/-- **Raising the ceiling only helps**, for every cluster that answers the same when it is asked the
same, every object and namespace. -/
theorem raises_resolve (h : d ≤ d') (answer : (q : Query) → q.Answer) (ns : String)
    (m : ObjectMeta) : Raises answer ns m d d' := by
  have hraise := run_walkFrom_raise answer ns h (.start m)
  rw [← resolve_eq, ← resolve_eq] at hraise
  refine ⟨fun w hw => ?_, fun o e hasked hfailed => ⟨?_, ?_⟩, fun o hcycle => ?_, fun o hreturn => ?_⟩
  · refine hraise.resolve_left fun hceiling => ?_
    exact absurd (hw.symm.trans hceiling.1) (by simp)
  · have hfetches := fetches_walk answer ns d d [] { kind := "", name := m.nameOrEmpty }
      m.ownerReferences
    refine hfetches.failed _ hasked e ?_
    have hreply : answer (.owner o ns) = .error e := hfailed
    rw [hreply]
    rfl
  · exact hraise.resolve_left fun hceiling => hceiling.2 o e hasked hfailed
  · refine hraise.resolve_left fun hceiling => ?_
    exact tooDeep_ne_cycle d o (Except.error.inj (hceiling.1.symm.trans hcycle))
  · obtain ⟨refs, last, first, hfirst⟩ := hreturn.exists_firstReturn
    exact ⟨refs.length, first, run_resolve_of_firstReturn hfirst⟩

/-- A ReplicaSet that a Job controls. -/
def circledSet : OwnerReference :=
  { apiVersion := "apps/v1", kind := "ReplicaSet", name := "web", uid := "r"
    controller := some true }

/-- A Job that the ReplicaSet controls in turn. -/
def circledJob : OwnerReference :=
  { apiVersion := "batch/v1", kind := "Job", name := "run", uid := "j", controller := some true }

/-- A ReplicaSet and a Job that control each other. -/
def circledCluster : ClusterScript :=
  { owners := .ofList
      [ ("apps/v1 ReplicaSet web", .ok { ownerReferences := some [circledJob] }),
        ("batch/v1 Job run", .ok { ownerReferences := some [circledSet] }) ] }

/-- A Pod of the ReplicaSet. -/
def circledPod : ObjectMeta := { name := some "web-x", ownerReferences := some [circledSet] }

/-- What was found under the ceiling two is found under five, and a Pod in a circle has no workload
under any: at the ceiling two the walk is too deep, at three it is back where it was. -/
theorem raises_circledPod :
    2 ≤ 5 ∧
      (resolve rolloutPod "shop" 5).run rolloutCluster.answer =
        (resolve rolloutPod "shop" 2).run rolloutCluster.answer ∧
      ((resolve rolloutPod "shop" 2).run rolloutCluster.answer).1 =
        .ok { kind := "Deployment", name := "web" } ∧
      Returns (reader circledCluster.answer "shop") circledPod circledSet ∧
      (∃ n first, ∀ c, ((resolve circledPod "shop" c).run circledCluster.answer).1 =
        .error (if c ≤ n then tooDeep c else cycle first)) ∧
      ((resolve circledPod "shop" 2).run circledCluster.answer).1 = .error (tooDeep 2) ∧
      ((resolve circledPod "shop" 3).run circledCluster.answer).1 = .error (cycle circledSet) := by
  have hle : 2 ≤ 5 := by decide
  have hfound : ((resolve rolloutPod "shop" 2).run rolloutCluster.answer).1 =
      .ok { kind := "Deployment", name := "web" } := rfl
  have hreturns : Returns (reader circledCluster.answer "shop") circledPod circledSet :=
    ⟨[circledSet, circledJob], { ownerReferences := some [circledSet] },
      .up rfl rfl (.up rfl rfl (.stay _)), rfl, List.mem_cons_self⟩
  exact ⟨hle, (raises_resolve hle rolloutCluster.answer "shop" rolloutPod).found _ hfound, hfound,
    hreturns, (raises_resolve hle circledCluster.answer "shop" circledPod).returns _ hreturns,
    rfl, rfl⟩

end Owner
end InjectionWebhook
