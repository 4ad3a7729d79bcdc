import Dramatis.Notice
import Dramatis.Mistake

/-!
# Dramatis.Act

Actions on a state that may fail and that leave notices. What an action did to
its state, and the notices it wrote, outlive its failure: nothing is rolled back.
An action that must be all or nothing therefore has to check before it changes
anything.

Notices can be written and nothing else: no action sees those that came before
it, so what an action leaves behind depends on the state alone.
-/

namespace Dramatis

/-- What is left of an action: its answer or its error, the state after it and
the notices it wrote, oldest first. -/
structure Outcome (σ β : Type) where
  answer : Except Mistake β
  state : σ
  notices : List Notice

/-- An action on a state `σ` with an answer in `β`. -/
structure Act (σ β : Type) where
  perform : σ → Outcome σ β

namespace Act

variable {σ τ β γ : Type}

/-- An answer, and nothing done. -/
def answer (b : β) : Act σ β := ⟨fun s => ⟨.ok b, s, []⟩⟩

/-- A failure, and nothing done. -/
def fail (error : Mistake) : Act σ β := ⟨fun s => ⟨.error error, s, []⟩⟩

/-- One action after another, the second being told the answer of the first. A
failure of the first is that of both. -/
def andThen (first : Act σ β) (second : β → Act σ γ) : Act σ γ := ⟨fun s =>
  match first.perform s with
  | ⟨.error error, t, notices⟩ => ⟨.error error, t, notices⟩
  | ⟨.ok b, t, notices⟩ =>
    let rest := (second b).perform t
    ⟨rest.answer, rest.state, notices ++ rest.notices⟩⟩

instance : Monad (Act σ) where
  pure := answer
  bind := andThen

/-- The state as it is. -/
def state : Act σ σ := ⟨fun s => ⟨.ok s, s, []⟩⟩

/-- Puts another state in place of the present one. -/
def become (s : σ) : Act σ Unit := ⟨fun _ => ⟨.ok (), s, []⟩⟩

/-- Writes a notice. -/
def note (notice : Notice) : Act σ Unit := ⟨fun s => ⟨.ok (), s, [notice]⟩⟩

/-- Answers with a value, or fails. -/
def ofExcept : Except Mistake β → Act σ β
  | .ok b => answer b
  | .error error => fail error

/-- An action on one part of a state, the rest being kept. The part is put back
whether or not the action fails. -/
def within (part : σ → τ) (replace : σ → τ → σ) (act : Act τ β) : Act σ β := ⟨fun s =>
  let inner := act.perform (part s)
  ⟨inner.answer, replace s inner.state, inner.notices⟩⟩

/-! ## What actions leave behind -/

@[simp] theorem perform_pure (b : β) (s : σ) :
    (pure b : Act σ β).perform s = ⟨.ok b, s, []⟩ := rfl

@[simp] theorem perform_fail (error : Mistake) (s : σ) :
    (fail error : Act σ β).perform s = ⟨.error error, s, []⟩ := rfl

/-- An action that succeeds hands its state on, and its notices come first. -/
theorem perform_bind_ok {first : Act σ β} {second : β → Act σ γ} {s t : σ} {b : β}
    {notices : List Notice} (h : first.perform s = ⟨.ok b, t, notices⟩) :
    (first >>= second).perform s =
      ⟨((second b).perform t).answer, ((second b).perform t).state,
        notices ++ ((second b).perform t).notices⟩ := by
  simp only [bind, andThen, h]

/-- After a failure nothing more is done. -/
theorem perform_bind_error {first : Act σ β} {second : β → Act σ γ} {s t : σ}
    {error : Mistake} {notices : List Notice}
    (h : first.perform s = ⟨.error error, t, notices⟩) :
    (first >>= second).perform s = ⟨.error error, t, notices⟩ := by
  simp only [bind, andThen, h]

/-- An answer that is only made into another one leaves behind the same. -/
theorem perform_bind_pure (act : Act σ β) (f : β → γ) (s : σ) :
    (act >>= fun b => pure (f b)).perform s =
      ⟨(act.perform s).answer.map f, (act.perform s).state, (act.perform s).notices⟩ := by
  simp only [bind, andThen, pure, answer]
  obtain ⟨answer, t, notices⟩ := act.perform s
  cases answer with
  | error error => rfl
  | ok b => simp [Except.map]

/-- Looking at the state changes nothing. -/
@[simp] theorem perform_state_bind (next : σ → Act σ β) (s : σ) :
    (state >>= next).perform s = (next s).perform s := rfl

/-- An answer or an error that is known beforehand leaves the state alone. -/
@[simp] theorem perform_ofExcept (answer : Except Mistake β) (s : σ) :
    (ofExcept answer).perform s = ⟨answer, s, []⟩ := by
  cases answer <;> rfl

@[simp] theorem perform_ofExcept_ok_bind (b : β) (next : β → Act σ γ) (s : σ) :
    (ofExcept (.ok b) >>= next).perform s = (next b).perform s := rfl

@[simp] theorem perform_ofExcept_error_bind (error : Mistake) (next : β → Act σ γ) (s : σ) :
    (ofExcept (.error error) >>= next).perform s = ⟨.error error, s, []⟩ := rfl

@[simp] theorem perform_become (t s : σ) : (become t).perform s = ⟨.ok (), t, []⟩ := rfl

@[simp] theorem perform_become_bind (t : σ) (next : Unit → Act σ β) (s : σ) :
    (become t >>= next).perform s = (next ()).perform t := rfl

@[simp] theorem perform_note (notice : Notice) (s : σ) :
    (note notice).perform s = ⟨.ok (), s, [notice]⟩ := rfl

@[simp] theorem perform_note_bind (notice : Notice) (next : Unit → Act σ β) (s : σ) :
    (note notice >>= next).perform s =
      ⟨((next ()).perform s).answer, ((next ()).perform s).state,
        notice :: ((next ()).perform s).notices⟩ := rfl

/-- An action on a part leaves the rest of the state as it was. -/
@[simp] theorem perform_within (part : σ → τ) (replace : σ → τ → σ) (act : Act τ β) (s : σ) :
    (within part replace act).perform s =
      ⟨(act.perform (part s)).answer, replace s (act.perform (part s)).state,
        (act.perform (part s)).notices⟩ := rfl

end Act

end Dramatis
