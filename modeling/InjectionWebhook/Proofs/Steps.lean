/-
# Runs of a dialogue, as a relation

`Dialogue.Steps answers d s a s'` says that `d` can lead from the state `s` to the result `a` and
the state `s'` when every question is answered as `answers` allows.  A run of a composed dialogue is
a run of the first part and then one of the second (`steps_bind`), so what a long dialogue did can
be read off its result.

The ways to run a dialogue are instances: against fixed answers, with the questions as the state
(`steps_run_iff`), and against answers that change a state (`steps_runState_iff`).  A dialogue whose
questions are answered by dialogues runs as if each were one step (`runState_expand`).

`Dialogue.Asks` bounds what a dialogue may ask, whatever the answers are; what every such question
keeps, a whole run keeps (`runState_invariant`).  `Dialogue.FailsWith` bounds how a dialogue may fail:
a composed dialogue fails as one of its parts does (`failsWith_bind`).
-/
import InjectionWebhook.Dialogue

namespace InjectionWebhook
namespace Dialogue

variable {Q : Type} {A : Q → Type} {α β ε σ : Type}

/-! ## 1. The relation -/

/-- The dialogue can lead from a state to a result and a state. -/
inductive Steps (answers : (q : Q) → σ → A q → σ → Prop) : Dialogue Q A α → σ → α → σ → Prop
  | done (a : α) (s : σ) : Steps answers (.done a) s a s
  | ask {q : Q} {next : A q → Dialogue Q A α} {r : A q} {s t s' : σ} {a : α}
      (answered : answers q s r t) (rest : Steps answers (next r) t a s') :
      Steps answers (.ask q next) s a s'

variable {answers : (q : Q) → σ → A q → σ → Prop} {s s' : σ}

@[simp] theorem steps_done {a b : α} :
    (Dialogue.done b : Dialogue Q A α).Steps answers s a s' ↔ a = b ∧ s' = s := by
  constructor
  · rintro ⟨⟩
    exact ⟨rfl, rfl⟩
  · rintro ⟨rfl, rfl⟩
    exact .done a s'

@[simp] theorem steps_ask {q : Q} {next : A q → Dialogue Q A α} {a : α} :
    (Dialogue.ask q next).Steps answers s a s' ↔
      ∃ r t, answers q s r t ∧ (next r).Steps answers t a s' := by
  constructor
  · intro h
    cases h with
    | ask answered rest => exact ⟨_, _, answered, rest⟩
  · rintro ⟨r, t, answered, rest⟩
    exact .ask answered rest

/-- A question on its own: the result is the answer. -/
theorem steps_ask_done {q : Q} {r : A q} :
    (Dialogue.ask q .done).Steps answers s r s' ↔ answers q s r s' := by
  rw [steps_ask]
  constructor
  · rintro ⟨r, t, h, hdone⟩
    obtain ⟨rfl, rfl⟩ := steps_done.mp hdone
    exact h
  · intro h
    exact ⟨r, s', h, .done r s'⟩

/-- **A run of a composed dialogue is a run of each part.** -/
theorem steps_bind {d : Dialogue Q A α} {f : α → Dialogue Q A β} {b : β} :
    (d.bind f).Steps answers s b s' ↔
      ∃ a t, d.Steps answers s a t ∧ (f a).Steps answers t b s' := by
  induction d generalizing s with
  | done a =>
    constructor
    · intro h
      exact ⟨a, s, .done a s, h⟩
    · rintro ⟨a', t, hdone, h⟩
      obtain ⟨rfl, rfl⟩ := steps_done.mp hdone
      exact h
  | ask q next ih =>
    rw [ask_bind, steps_ask]
    constructor
    · rintro ⟨r, t, hr, h⟩
      obtain ⟨a, u, ha, hb⟩ := (ih r).mp h
      exact ⟨a, u, .ask hr ha, hb⟩
    · rintro ⟨a, u, hask, hb⟩
      obtain ⟨r, t, hr, ha⟩ := steps_ask.mp hask
      exact ⟨r, t, hr, (ih r).mpr ⟨a, u, ha, hb⟩⟩

/-! ## 2. Dialogues that may fail -/

section Attempt

variable {x : ExceptT ε (Dialogue Q A) α} {f : α → ExceptT ε (Dialogue Q A) β}

@[simp] theorem steps_pure {a b : α} :
    (pure b : ExceptT ε (Dialogue Q A) α).run.Steps answers s (.ok a) s' ↔ a = b ∧ s' = s := by
  change Steps answers (Dialogue.done (Except.ok b)) s (Except.ok a) s' ↔ _
  rw [steps_done, Except.ok.injEq]

/-- A failed dialogue has no value. -/
@[simp] theorem not_steps_throw {e : ε} {a : α} :
    ¬ (throw e : ExceptT ε (Dialogue Q A) α).run.Steps answers s (.ok a) s' := by
  intro h
  exact absurd (steps_done.mp h).1 (by simp)

/-- A failure of the first part is the failure of the whole. -/
theorem run_bind_except : (x >>= f).run = x.run.bind fun
    | .ok a => (f a).run
    | .error e => .done (.error e) := by
  change x.run.bind (ExceptT.bindCont f) = _
  congr 1
  funext r
  cases r <;> rfl

/-- **What succeeds as a whole succeeded in each part.** -/
theorem steps_bind_ok {b : β} :
    (x >>= f).run.Steps answers s (.ok b) s' ↔
      ∃ a t, x.run.Steps answers s (.ok a) t ∧ (f a).run.Steps answers t (.ok b) s' := by
  rw [run_bind_except, steps_bind]
  constructor
  · rintro ⟨_ | a, t, hx, hf⟩
    · exact absurd (steps_done.mp hf).1 (by simp)
    · exact ⟨a, t, hx, hf⟩
  · rintro ⟨a, t, hx, hf⟩
    exact ⟨.ok a, t, hx, hf⟩

theorem steps_map_ok {g : α → β} {b : β} :
    (g <$> x).run.Steps answers s (.ok b) s' ↔
      ∃ a, x.run.Steps answers s (.ok a) s' ∧ b = g a := by
  have hrun : (g <$> x).run = x.run.bind fun
      | .ok a => .done (.ok (g a))
      | .error e => .done (.error e) := by
    change x.run.bind _ = _
    congr 1
    funext r
    cases r <;> rfl
  rw [hrun, steps_bind]
  constructor
  · rintro ⟨_ | a, t, hx, hb⟩
    · exact absurd (steps_done.mp hb).1 (by simp)
    · obtain ⟨hvalue, rfl⟩ := steps_done.mp hb
      exact ⟨a, hx, Except.ok.inj hvalue⟩
  · rintro ⟨a, hx, rfl⟩
    exact ⟨.ok a, s', hx, .done _ _⟩

/-- A dialogue that cannot fail. -/
theorem steps_lift {d : Dialogue Q A α} {a : α} :
    (ExceptT.lift d : ExceptT ε (Dialogue Q A) α).run.Steps answers s (.ok a) s' ↔
      d.Steps answers s a s' := by
  change (d.bind fun a => Dialogue.done (Except.ok a)).Steps answers s (Except.ok a) s' ↔ _
  rw [steps_bind]
  constructor
  · rintro ⟨a', t, h, hdone⟩
    obtain ⟨hok, rfl⟩ := steps_done.mp hdone
    rw [Except.ok.inj hok]
    exact h
  · intro h
    exact ⟨a, s', h, .done _ _⟩

end Attempt

/-! ## 3. The ways to run -/

/-- The runs against fixed answers, with the questions asked so far as the state. -/
def Fixed (answer : (q : Q) → A q) (q : Q) (asked : List Q) (r : A q) (asked' : List Q) : Prop :=
  r = answer q ∧ asked' = asked ++ [q]

/-- **A run against fixed answers**: its result and its questions. -/
theorem steps_run_iff {answer : (q : Q) → A q} {d : Dialogue Q A α} {asked : List Q} {a : α}
    {asked' : List Q} :
    d.Steps (Fixed answer) asked a asked' ↔
      a = (d.run answer).1 ∧ asked' = asked ++ (d.run answer).2 := by
  induction d generalizing asked with
  | done b => simp
  | ask q next ih =>
    rw [steps_ask]
    constructor
    · rintro ⟨_, _, ⟨rfl, rfl⟩, h⟩
      obtain ⟨ha, hasked⟩ := (ih (answer q)).mp h
      exact ⟨ha, by rw [hasked, List.append_assoc]; rfl⟩
    · rintro ⟨ha, hasked⟩
      refine ⟨answer q, asked ++ [q], ⟨rfl, rfl⟩, (ih (answer q)).mpr ⟨ha, ?_⟩⟩
      rw [hasked, List.append_assoc]
      rfl

/-- The runs against answers that depend on a state and change it. -/
def Stateful (answer : (q : Q) → σ → A q × σ) (q : Q) (s : σ) (r : A q) (s' : σ) : Prop :=
  (r, s') = answer q s

/-- **A run against a state**: its result and the state after it. -/
theorem steps_runState_iff {answer : (q : Q) → σ → A q × σ} {d : Dialogue Q A α} {s s' : σ}
    {a : α} :
    d.Steps (Stateful answer) s a s' ↔ (a, s') = d.runState answer s := by
  induction d generalizing s with
  | done b => simp [runState]
  | ask q next ih =>
    rw [steps_ask]
    constructor
    · rintro ⟨r, t, hr, h⟩
      rw [runState, ← hr]
      exact (ih r).mp h
    · intro h
      exact ⟨(answer q s).1, (answer q s).2, rfl, (ih _).mpr h⟩

/-- Expanding a composed dialogue expands each part. -/
theorem expand_bind {Q' : Type} {A' : Q' → Type} (g : (q : Q) → Dialogue Q' A' (A q))
    (d : Dialogue Q A α) (f : α → Dialogue Q A β) :
    (d.bind f).expand g = (d.expand g).bind fun a => (f a).expand g := by
  induction d with
  | done a => rfl
  | ask q next ih =>
    rw [ask_bind, expand, expand, bind_assoc]
    congr 1
    funext r
    exact ih r

/-- **Answering questions by dialogues and running is running with larger steps.** -/
theorem runState_expand {Q' : Type} {A' : Q' → Type} (f : (q : Q) → Dialogue Q' A' (A q))
    (answer : (q : Q') → σ → A' q × σ) (d : Dialogue Q A α) (s : σ) :
    (d.expand f).runState answer s = d.runState (fun q s => (f q).runState answer s) s := by
  induction d generalizing s with
  | done a => rfl
  | ask q next ih =>
    rw [expand, runState_bind, ih]
    rfl

/-! ## 4. What may be asked -/

/-- The dialogue may end with a result, for some answers. -/
def Yields (d : Dialogue Q A α) (a : α) : Prop :=
  d.Steps (fun _ (_ : Unit) _ _ => True) () a ()

/-- Whatever the answers are, only questions with a property are asked. -/
inductive Asks (P : Q → Prop) : Dialogue Q A α → Prop
  | done (a : α) : Asks P (.done a)
  | ask {q : Q} {next : A q → Dialogue Q A α} (asked : P q) (rest : ∀ r, Asks P (next r)) :
      Asks P (.ask q next)

variable {P : Q → Prop}

/-- The second dialogue is asked only after a result the first may end with. -/
theorem Asks.bind {d : Dialogue Q A α} {f : α → Dialogue Q A β} (hd : d.Asks P)
    (hf : ∀ a, d.Yields a → (f a).Asks P) : (d.bind f).Asks P := by
  induction hd with
  | done a => exact hf a (.done a ())
  | ask asked rest ih =>
    refine .ask asked fun r => ih r fun a ha => hf a ?_
    exact .ask trivial ha

theorem Asks.bind_ok {x : ExceptT ε (Dialogue Q A) α} {f : α → ExceptT ε (Dialogue Q A) β}
    (hx : x.run.Asks P) (hf : ∀ a, x.run.Yields (.ok a) → (f a).run.Asks P) :
    (x >>= f).run.Asks P := by
  refine Asks.bind hx fun r hr => ?_
  cases r with
  | ok a => exact hf a hr
  | error e => exact .done _

theorem Asks.map_ok {x : ExceptT ε (Dialogue Q A) α} {g : α → β} (hx : x.run.Asks P) :
    (g <$> x).run.Asks P := by
  refine Asks.bind hx fun r _ => ?_
  cases r <;> exact .done _

/-- Questions that are answered by dialogues are asked through these. -/
theorem Asks.expand {Q' : Type} {A' : Q' → Type} {R : Q' → Prop}
    {f : (q : Q) → Dialogue Q' A' (A q)} (hf : ∀ q, P q → (f q).Asks R) {d : Dialogue Q A α}
    (hd : d.Asks P) : (d.expand f).Asks R := by
  induction hd with
  | done a => exact .done a
  | ask asked rest ih => exact Asks.bind (hf _ asked) fun r _ => ih r

/-- **What every question keeps, a run keeps.** -/
theorem runState_invariant {answer : (q : Q) → σ → A q × σ} {I : σ → Prop}
    (hstep : ∀ q s, P q → I s → I (answer q s).2) {d : Dialogue Q A α} (hd : d.Asks P) {s : σ}
    (hs : I s) : I (d.runState answer s).2 := by
  induction hd generalizing s with
  | done a => exact hs
  | ask asked rest ih => exact ih _ (hstep _ s asked hs)

/-! ## 5. How it may fail -/

/-- What some answers lead to, the dialogue may end with. -/
theorem yields_of_steps {d : Dialogue Q A α} {a : α} (h : d.Steps answers s a s') :
    d.Yields a := by
  induction h with
  | done a s => exact .done a ()
  | ask answered rest ih => exact .ask trivial ih

section Failing

/-- Every failure has a property, from whatever state the dialogue starts. -/
def FailsWith (answers : (q : Q) → σ → A q → σ → Prop) (F : ε → Prop)
    (x : ExceptT ε (Dialogue Q A) α) : Prop :=
  ∀ s e s', x.run.Steps answers s (.error e) s' → F e

variable {F : ε → Prop} {x : ExceptT ε (Dialogue Q A) α} {f : α → ExceptT ε (Dialogue Q A) β}

theorem failsWith_pure (a : α) :
    FailsWith answers F (pure a : ExceptT ε (Dialogue Q A) α) := by
  intro s e s' h
  exact absurd (steps_done.mp h).1 (by simp)

/-- **A composed dialogue fails as a part of it does**; the second part starts from a value of the
first. -/
theorem failsWith_bind (hx : FailsWith answers F x)
    (hf : ∀ s a s', x.run.Steps answers s (.ok a) s' → FailsWith answers F (f a)) :
    FailsWith answers F (x >>= f) := by
  intro s e s' h
  rw [run_bind_except, steps_bind] at h
  obtain ⟨r, t, hr, h⟩ := h
  cases r with
  | error e' =>
    obtain ⟨he, -⟩ := steps_done.mp h
    rw [Except.error.inj he]
    exact hx s e' t hr
  | ok a => exact hf s a t hr t e s' h

theorem failsWith_map {g : α → β} (hx : FailsWith answers F x) :
    FailsWith answers F (g <$> x) :=
  failsWith_bind hx fun _ a _ _ => failsWith_pure (g a)

/-- A result that is made from what a dialogue ends with. -/
theorem failsWith_bind_done {d : Dialogue Q A β} {g : β → Except ε α}
    (h : ∀ s b s', d.Steps answers s b s' → ∀ e, g b = .error e → F e) :
    FailsWith answers F (ExceptT.mk (d.bind fun b => .done (g b))) := by
  intro s e s' hsteps
  rw [ExceptT.run_mk, steps_bind] at hsteps
  obtain ⟨b, t, hb, hdone⟩ := hsteps
  exact h s b t hb e (steps_done.mp hdone).1.symm

theorem failsWith_done {r : Except ε α} (h : ∀ e, r = .error e → F e) :
    FailsWith answers F (ExceptT.mk (.done r) : ExceptT ε (Dialogue Q A) α) :=
  failsWith_bind_done (d := .done ()) fun _ _ _ _ => h

end Failing

end Dialogue
end InjectionWebhook
