/-
# The rounds of the walk to the workload

The walk is written with a counter of the owners it may still fetch.  Seen without the counter it is
a loop: in each round it stops or fetches one more owner, and what it knows is what it fetched
(`Owner.Stand`, `Owner.round`, `Owner.walkFrom_eq`).  Nothing in the data it goes through is bound to
come to an end, since every answer is for the cluster to choose.  The loop ends because a round that
fetches adds to what is fetched, and the ceiling is compared before (`Owner.round_eq_fetch_iff`,
`Owner.rounds_induction`).

So a walk is bounded whatever it is told, also by a cluster that answers differently each time
(`Owner.ends_resolve`).
-/
import InjectionWebhook.Admission.Owner

namespace InjectionWebhook

/-! ## 1. Runs that are recorded -/

namespace Dialogue

variable {Q : Type} {A : Q → Type} {α σ : Type}

/-- Answers as before, and writes down what was asked and what was answered. -/
def recording (answer : (q : Q) → σ → A q × σ) (q : Q) (s : σ × List ((q : Q) × A q)) :
    A q × σ × List ((q : Q) × A q) :=
  ((answer q s.1).1, (answer q s.1).2, s.2 ++ [⟨q, (answer q s.1).1⟩])

/-- Writing down changes nothing. -/
theorem runState_recording (answer : (q : Q) → σ → A q × σ) (d : Dialogue Q A α) (s : σ)
    (past : List ((q : Q) × A q)) :
    (d.runState (recording answer) (s, past)).1 = (d.runState answer s).1 := by
  induction d generalizing s past with
  | done a => rfl
  | ask q next ih => exact ih _ _ _

end Dialogue

namespace Owner

/-! ## 2. One round -/

/-- Where a walk stands: what it fetched, the last first, the workload so far, and the owners to go
on with. -/
structure Stand where
  visited : List (String × String)
  current : Workload
  owners : Option (List OwnerReference)

namespace Stand

/-- Where the walk from an object begins. -/
def start (m : ObjectMeta) : Stand :=
  { visited := [], current := { kind := "", name := m.nameOrEmpty }, owners := m.ownerReferences }

/-- After an owner was fetched. -/
def up (s : Stand) (o : OwnerReference) (fetched : ObjectMeta) : Stand where
  visited := (o.kind, o.name) :: s.visited
  current := { kind := o.kind, name := fetched.name.getD o.name }
  owners := fetched.ownerReferences

end Stand

/-- What a round comes to. -/
inductive Round where
  | stop (result : Except Failure Workload)
  | fetch (o : OwnerReference)

/-- One round of the walk.  The ceiling is compared with what was fetched before. -/
def round (depth : Nat) (s : Stand) : Round :=
  match controller? s.owners with
  | none => .stop (.ok s.current)
  | some o =>
    if !isRecognised o then .stop (.ok { kind := o.kind, name := o.name })
    else if depth ≤ s.visited.length then .stop (.error (tooDeep depth))
    else if s.visited.contains (o.kind, o.name) then .stop (.error (cycle o))
    else .fetch o

/-- The walk from where it stands. -/
def walkFrom (ns : String) (depth : Nat) (s : Stand) :
    ClusterDialogue (Except Failure Workload) :=
  walk ns depth (depth - s.visited.length) s.visited s.current s.owners

theorem resolve_eq (m : ObjectMeta) (ns : String) (depth : Nat) :
    resolve m ns depth = walkFrom ns depth (.start m) := rfl

/-- **The walk is a loop of rounds**, without the counter. -/
theorem walkFrom_eq (ns : String) (depth : Nat) (s : Stand) :
    walkFrom ns depth s = match round depth s with
      | .stop r => .done r
      | .fetch o => .ask (.owner o ns) fun
        | .error e => .done (.error e)
        | .ok fetched => walkFrom ns depth (s.up o fetched) := by
  have hup : ∀ o fetched, (s.up o fetched).visited.length = s.visited.length + 1 :=
    fun _ _ => List.length_cons
  rw [walkFrom, walk, round]
  cases controller? s.owners with
  | none => rfl
  | some o =>
    dsimp only
    split
    · rfl
    · by_cases hfull : depth ≤ s.visited.length
      · rw [if_pos hfull, Nat.sub_eq_zero_of_le hfull]
      · obtain ⟨left, hleft⟩ := Nat.exists_eq_add_of_lt (Nat.lt_of_not_le hfull)
        have hsub : depth - s.visited.length = left + 1 := by omega
        rw [if_neg hfull, hsub]
        dsimp only
        split
        · rfl
        · congr 1
          funext r
          cases r with
          | error e => rfl
          | ok fetched =>
            have hrest : depth - (s.up o fetched).visited.length = left := by
              rw [hup]
              omega
            have hwalk : walkFrom ns depth (s.up o fetched) = walk ns depth left
                (s.up o fetched).visited (s.up o fetched).current (s.up o fetched).owners := by
              rw [walkFrom, hrest]
            exact hwalk.symm

/-- **When an owner is fetched**: it is the controller, the walk goes through it, there is room for
one more, and it was not fetched before. -/
theorem round_eq_fetch_iff {depth : Nat} {s : Stand} {o : OwnerReference} :
    round depth s = .fetch o ↔
      controller? s.owners = some o ∧ isRecognised o = true ∧ s.visited.length < depth ∧
        (o.kind, o.name) ∉ s.visited := by
  rw [round]
  cases controller? s.owners with
  | none => simp
  | some o' =>
    constructor
    · intro h
      dsimp only at h
      split at h
      · exact absurd h (by simp)
      · rename_i hknown
        split at h
        · exact absurd h (by simp)
        · rename_i hroom
          split at h
          · exact absurd h (by simp)
          · rename_i hfresh
            obtain rfl := Round.fetch.inj h
            exact ⟨rfl, by simpa using hknown, Nat.lt_of_not_le hroom,
              fun hagain => hfresh (List.contains_iff_mem.mpr hagain)⟩
    · rintro ⟨hsome, hknown, hroom, hfresh⟩
      obtain rfl := Option.some.inj hsome
      have hnot : s.visited.contains (o'.kind, o'.name) = false := by simpa using hfresh
      simp only [hknown, Bool.not_true, Bool.false_eq_true, if_false, Nat.not_le.mpr hroom, hnot]

/-- **The loop ends**: what holds of a stand whenever it holds after each fetch from there, holds of
every stand.  Each fetch takes one of the places under the ceiling. -/
theorem rounds_induction {P : Stand → Prop} (depth : Nat)
    (hround : ∀ s, (∀ o fetched, round depth s = .fetch o → P (s.up o fetched)) → P s) (s : Stand) :
    P s := by
  induction hleft : depth - s.visited.length generalizing s with
  | zero =>
    refine hround s fun o fetched hfetch => ?_
    have hroom := (round_eq_fetch_iff.mp hfetch).2.2.1
    omega
  | succ left ih =>
    refine hround s fun o fetched _ => ih _ ?_
    rw [Stand.up, List.length_cons]
    omega

/-! ## 3. All rounds -/

/-- An owner that was asked for, and what was answered. -/
abbrev Visit := OwnerReference × Except Failure ObjectMeta

/-- What is asked on a visit in a namespace, with the answer. -/
def Visit.exchange (ns : String) (v : Visit) : (q : Query) × q.Answer := ⟨.owner v.1 ns, v.2⟩

/-- What the walk remembers of a visit. -/
def Visit.key (v : Visit) : String × String := (v.1.kind, v.1.name)

/-- The rounds from a stand go through visits to a result. -/
inductive Rounds (depth : Nat) : Stand → List Visit → Except Failure Workload → Prop
  | stop {s : Stand} {r : Except Failure Workload} (stopped : round depth s = .stop r) :
      Rounds depth s [] r
  | failed {s : Stand} {o : OwnerReference} {e : Failure} (fetch : round depth s = .fetch o) :
      Rounds depth s [(o, .error e)] (.error e)
  | up {s : Stand} {o : OwnerReference} {fetched : ObjectMeta} {visits : List Visit}
      {r : Except Failure Workload} (fetch : round depth s = .fetch o)
      (rest : Rounds depth (s.up o fetched) visits r) : Rounds depth s ((o, .ok fetched) :: visits) r

section Rounds

variable {depth : Nat} {s : Stand} {visits : List Visit} {r : Except Failure Workload}

/-- The visits fit under the ceiling, with those made before. -/
theorem Rounds.length_le (h : Rounds depth s visits r) (hs : s.visited.length ≤ depth) :
    s.visited.length + visits.length ≤ depth := by
  induction h with
  | stop _ => exact hs
  | failed fetch =>
    have hroom := (round_eq_fetch_iff.mp fetch).2.2.1
    rw [List.length_singleton]
    omega
  | @up s o fetched visits r fetch _ ih =>
    have hroom := (round_eq_fetch_iff.mp fetch).2.2.1
    have hup : (s.up o fetched).visited.length = s.visited.length + 1 := List.length_cons
    have hrest := ih (by omega)
    rw [List.length_cons]
    omega

/-- Only recognised controllers are visited. -/
theorem Rounds.controllers (h : Rounds depth s visits r) :
    ∀ v ∈ visits, v.1.controller = some true ∧ IsWorkload v.1 := by
  have hfetch : ∀ {s : Stand} {o : OwnerReference}, round depth s = .fetch o →
      o.controller = some true ∧ IsWorkload o := by
    intro s o fetch
    obtain ⟨hsome, hknown, -⟩ := round_eq_fetch_iff.mp fetch
    have hcontroller := List.find?_some hsome
    exact ⟨of_decide_eq_true hcontroller, isRecognised_iff.mp hknown⟩
  induction h with
  | stop _ => exact fun _ hv => absurd hv List.not_mem_nil
  | failed fetch =>
    intro v hv
    rw [List.mem_singleton.mp hv]
    exact hfetch fetch
  | up fetch _ ih =>
    intro v hv
    rcases List.mem_cons.mp hv with rfl | hv
    · exact hfetch fetch
    · exact ih v hv

/-- Nothing is visited that was visited before. -/
theorem Rounds.fresh (h : Rounds depth s visits r) : ∀ v ∈ visits, v.key ∉ s.visited := by
  induction h with
  | stop _ => exact fun _ hv => absurd hv List.not_mem_nil
  | failed fetch =>
    intro v hv
    rw [List.mem_singleton.mp hv]
    exact (round_eq_fetch_iff.mp fetch).2.2.2
  | up fetch _ ih =>
    intro v hv
    rcases List.mem_cons.mp hv with rfl | hv
    · exact (round_eq_fetch_iff.mp fetch).2.2.2
    · exact fun hbefore => ih v hv (List.mem_cons_of_mem _ hbefore)

/-- No two visits have the same kind and name. -/
theorem Rounds.nodup (h : Rounds depth s visits r) : (visits.map Visit.key).Nodup := by
  induction h with
  | stop _ => exact List.nodup_nil
  | failed _ => exact List.pairwise_singleton _ _
  | up _ rest ih =>
    rw [List.map_cons, List.nodup_cons]
    refine ⟨fun hagain => ?_, ih⟩
    obtain ⟨v, hv, hkey⟩ := List.mem_map.mp hagain
    exact rest.fresh v hv (hkey ▸ List.mem_cons_self)

/-- All visits but the last are answered with an object. -/
theorem Rounds.fetched (h : Rounds depth s visits r) :
    ∀ v ∈ visits.dropLast, ∃ fetched, v.2 = .ok fetched := by
  induction h with
  | stop _ => exact fun _ hv => absurd hv List.not_mem_nil
  | failed _ => exact fun _ hv => absurd hv List.not_mem_nil
  | @up s o fetched visits r _ _ ih =>
    intro v hv
    cases visits with
    | nil => exact absurd hv List.not_mem_nil
    | cons next visits =>
      rw [List.dropLast_cons_cons] at hv
      rcases List.mem_cons.mp hv with rfl | hv
      · exact ⟨fetched, rfl⟩
      · exact ih v hv

/-- The failure of a visit is the result. -/
theorem Rounds.failure (h : Rounds depth s visits r) :
    ∀ v ∈ visits, ∀ e, v.2 = .error e → r = .error e := by
  induction h with
  | stop _ => exact fun _ hv => absurd hv List.not_mem_nil
  | failed _ =>
    intro v hv e he
    rw [List.mem_singleton.mp hv] at he
    exact congrArg Except.error (Except.error.inj he)
  | up _ _ ih =>
    intro v hv e he
    rcases List.mem_cons.mp hv with rfl | hv
    · exact absurd he (by simp)
    · exact ih v hv e he

end Rounds

/-! ## 4. The walk against any cluster -/

section Hostile

variable {σ : Type} (answer : (q : Query) → σ → q.Answer × σ) (ns : String) (depth : Nat)

/-- **The walk is its rounds**, whoever answers and with whatever is kept from one answer to the
next. -/
theorem rounds_walkFrom (s : Stand) (world : σ) (past : List ((q : Query) × q.Answer)) :
    ∃ r visits world',
      (walkFrom ns depth s).runState (Dialogue.recording answer) (world, past) =
        (r, world', past ++ visits.map (Visit.exchange ns)) ∧ Rounds depth s visits r := by
  induction s using rounds_induction depth generalizing world past with
  | hround s ih =>
    rw [walkFrom_eq]
    cases hround : round depth s with
    | stop r => exact ⟨r, [], world, by rw [List.map_nil, List.append_nil]; rfl, .stop hround⟩
    | fetch o =>
      cases hreply : answer (.owner o ns) world with
      | mk reply world₁ =>
        have hrecorded : Dialogue.recording answer (.owner o ns) (world, past) =
            (reply, world₁, past ++ [Visit.exchange ns (o, reply)]) := by
          rw [Dialogue.recording, hreply]
          rfl
        dsimp only
        rw [Dialogue.runState, hrecorded]
        cases reply with
        | error e => exact ⟨.error e, [(o, .error e)], world₁, rfl, .failed hround⟩
        | ok fetched =>
          obtain ⟨r, visits, world₂, hrun, hrest⟩ :=
            ih o fetched hround world₁ (past ++ [Visit.exchange ns (o, .ok fetched)])
          refine ⟨r, (o, .ok fetched) :: visits, world₂, hrun.trans ?_, .up hround hrest⟩
          rw [List.map_cons, ← List.append_cons]

/-- A walk from an object with its visits and its result, within bounds. -/
structure Bounded (m : ObjectMeta) (visits : List Visit) (r : Except Failure Workload) : Prop where
  /-- It goes from controller to controller, as the rounds of the walk do. -/
  rounds : Rounds depth (.start m) visits r
  within : visits.length ≤ depth
  controllers : ∀ v ∈ visits, v.1.controller = some true ∧ IsWorkload v.1
  distinct : (visits.map fun v => (v.1.kind, v.1.name)).Nodup
  /-- No visit comes after one that failed, and its failure is the result. -/
  fetched : ∀ v ∈ visits.dropLast, ∃ fetched, v.2 = .ok fetched
  failure : ∀ v ∈ visits, ∀ e, v.2 = .error e → r = .error e

/-- **The walk ends, whatever it is told.**  For every cluster, also one whose answers change from
one question to the next and describe owners without end, in circles or in contradiction, every
object, namespace and depth: the walk comes to a result, all it asks are visits to owners in the
namespace, and it is bounded: at most `depth` visits, each to a recognised controller, none to the
same kind and name twice, and none after one that failed. -/
theorem ends_resolve (world : σ) (m : ObjectMeta) :
    ∃ r visits world',
      (resolve m ns depth).runState (Dialogue.recording answer) (world, []) =
        (r, world', visits.map (Visit.exchange ns)) ∧
      ((resolve m ns depth).runState answer world).1 = r ∧ Bounded depth m visits r := by
  obtain ⟨r, visits, world', hrun, hrounds⟩ :=
    rounds_walkFrom answer ns depth (.start m) world []
  rw [List.nil_append] at hrun
  have hresult : ((resolve m ns depth).runState answer world).1 = r := by
    rw [← Dialogue.runState_recording answer _ world [], resolve_eq, hrun]
  have hwithin : visits.length ≤ depth := by
    have hle := hrounds.length_le (Nat.zero_le depth)
    rwa [Stand.start, List.length_nil, Nat.zero_add] at hle
  exact ⟨r, visits, world', hrun, hresult, hrounds, hwithin, hrounds.controllers, hrounds.nodup,
    hrounds.fetched, hrounds.failure⟩

end Hostile

end Owner
end InjectionWebhook
