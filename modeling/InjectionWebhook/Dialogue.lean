/-
# Dialogues

A program that needs answers from outside is a `Dialogue`: either it is done, or it asks a question
and goes on with any answer the question can have.  The program itself is pure; what the answers
are, and what else happens while it waits for them, is decided by who runs it.

* `Dialogue.run` runs against fixed answers and lists the questions;
* `Dialogue.runState` runs against answers that depend on and change a state;
* `Dialogue.runWithin` runs against fixed answers that take time, and stops when time is up;
* `Dialogue.expand` answers each question by a dialogue of other questions.

The laws at the end say that running respects composition.
-/
namespace InjectionWebhook

/-- A program that asks questions `q : Q`, each answered by an `A q`, and ends with an `α`. -/
inductive Dialogue (Q : Type) (A : Q → Type) (α : Type) : Type where
  | done (value : α)
  | ask (q : Q) (next : A q → Dialogue Q A α)

namespace Dialogue

variable {Q : Type} {A : Q → Type} {α β γ σ : Type}

/-! ## 1. Composition -/

/-- Goes on with a second dialogue when the first is done. -/
def bind : Dialogue Q A α → (α → Dialogue Q A β) → Dialogue Q A β
  | .done a, f => f a
  | .ask q next, f => .ask q fun answer => (next answer).bind f

instance : Monad (Dialogue Q A) where
  pure := .done
  bind := .bind

/-- Answers each question of a dialogue by a dialogue of other questions. -/
def expand {Q' : Type} {A' : Q' → Type} (f : (q : Q) → Dialogue Q' A' (A q)) :
    Dialogue Q A α → Dialogue Q' A' α
  | .done a => .done a
  | .ask q next => (f q).bind fun answer => (next answer).expand f

/-! ## 2. Running -/

/-- The result against fixed answers, and the questions in the order in which they were asked. -/
def run (answer : (q : Q) → A q) : Dialogue Q A α → α × List Q
  | .done a => (a, [])
  | .ask q next =>
    let (a, asked) := (next (answer q)).run answer
    (a, q :: asked)

/-- The result against answers that depend on a state and change it. -/
def runState (answer : (q : Q) → σ → A q × σ) : Dialogue Q A α → σ → α × σ
  | .done a, s => (a, s)
  | .ask q next, s =>
    let (reply, s) := answer q s
    (next reply).runState answer s

/-- The result against fixed answers of which each takes its time: none if together they take more
than the limit.  The question in progress when time is up is the last one listed. -/
def runWithin (answer : (q : Q) → A q) (cost : Q → Nat) (limit : Nat) :
    Dialogue Q A α → Option α × List Q
  | .done a => (some a, [])
  | .ask q next =>
    if limit < cost q then (none, [q])
    else
      let (a, asked) := (next (answer q)).runWithin answer cost (limit - cost q)
      (a, q :: asked)

/-! ## 3. Laws -/

@[simp] theorem pure_eq (a : α) : (pure a : Dialogue Q A α) = .done a := rfl

@[simp] theorem bind_eq (d : Dialogue Q A α) (f : α → Dialogue Q A β) : (d >>= f) = d.bind f := rfl

@[simp] theorem done_bind (a : α) (f : α → Dialogue Q A β) : (Dialogue.done a).bind f = f a := rfl

@[simp] theorem ask_bind (q : Q) (next : A q → Dialogue Q A α) (f : α → Dialogue Q A β) :
    (Dialogue.ask q next).bind f = .ask q fun answer => (next answer).bind f := rfl

theorem bind_done (d : Dialogue Q A α) : d.bind .done = d := by
  induction d with
  | done a => rfl
  | ask q next ih => simp only [ask_bind, ih]

theorem bind_assoc (d : Dialogue Q A α) (f : α → Dialogue Q A β) (g : β → Dialogue Q A γ) :
    (d.bind f).bind g = d.bind fun a => (f a).bind g := by
  induction d with
  | done a => rfl
  | ask q next ih => simp only [ask_bind, ih]

@[simp] theorem run_done (answer : (q : Q) → A q) (a : α) :
    (Dialogue.done a : Dialogue Q A α).run answer = (a, []) := rfl

@[simp] theorem run_ask (answer : (q : Q) → A q) (q : Q) (next : A q → Dialogue Q A α) :
    (Dialogue.ask q next).run answer =
      (((next (answer q)).run answer).1, q :: ((next (answer q)).run answer).2) := rfl

/-- The second dialogue starts from the result of the first, and its questions come after. -/
theorem run_bind (answer : (q : Q) → A q) (d : Dialogue Q A α) (f : α → Dialogue Q A β) :
    (d.bind f).run answer =
      (((f (d.run answer).1).run answer).1,
        (d.run answer).2 ++ ((f (d.run answer).1).run answer).2) := by
  induction d with
  | done a => rfl
  | ask q next ih => simp [ih]

theorem runState_bind (answer : (q : Q) → σ → A q × σ) (d : Dialogue Q A α)
    (f : α → Dialogue Q A β) (s : σ) :
    (d.bind f).runState answer s =
      (f (d.runState answer s).1).runState answer (d.runState answer s).2 := by
  induction d generalizing s with
  | done a => rfl
  | ask q next ih => simp only [ask_bind, runState, ih]

end Dialogue

end InjectionWebhook
