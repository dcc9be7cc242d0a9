import ChatixProtocol.Foundation.Outcome

/-! # Stateful computations

A method of a mutable object may change the object before it fails. Its model
returns the state reached together with the outcome, and a failing step keeps
what the steps before it did to the state.
-/

namespace ChatixProtocol

def Effect (σ ε α : Type) : Type :=
  σ → Outcome ε α × σ

namespace Effect

def bind (first : Effect σ ε α) (next : α → Effect σ ε β) : Effect σ ε β := fun state =>
  match first state with
  | (.ok value, reached) => next value reached
  | (.err error, reached) => (.err error, reached)
  | (.panic, reached) => (.panic, reached)

instance : Monad (Effect σ ε) where
  pure value := fun state => (.ok value, state)
  bind := Effect.bind

def get : Effect σ ε σ := fun state => (.ok state, state)

def modify (update : σ → σ) : Effect σ ε Unit := fun state => (.ok (), update state)

/-- A computation that does not touch the state. -/
def lift (outcome : Outcome ε α) : Effect σ ε α := fun state => (outcome, state)

@[simp] theorem pure_apply (value : α) (state : σ) :
    (pure value : Effect σ ε α) state = (.ok value, state) := (rfl)

@[simp] theorem get_apply (state : σ) :
    (get : Effect σ ε σ) state = (.ok state, state) := (rfl)

@[simp] theorem modify_apply (update : σ → σ) (state : σ) :
    (modify update : Effect σ ε Unit) state = (.ok (), update state) := (rfl)

@[simp] theorem lift_apply (outcome : Outcome ε α) (state : σ) :
    (lift outcome : Effect σ ε α) state = (outcome, state) := (rfl)

theorem lift_eq_ok_iff {outcome : Outcome ε α} {state last : σ} {value : α} :
    (lift outcome : Effect σ ε α) state = (.ok value, last) ↔
      outcome = .ok value ∧ last = state := by
  rw [lift_apply, Prod.mk.injEq]
  exact and_congr_right fun _ => eq_comm

theorem bind_apply (first : Effect σ ε α) (next : α → Effect σ ε β) (state : σ) :
    (first >>= next) state =
      match first state with
      | (.ok value, reached) => next value reached
      | (.err error, reached) => (.err error, reached)
      | (.panic, reached) => (.panic, reached) := (rfl)

theorem bind_of_ok {first : Effect σ ε α} {next : α → Effect σ ε β} {state reached : σ}
    {value : α} (ran : first state = (.ok value, reached)) :
    (first >>= next) state = next value reached := by
  rw [bind_apply, ran]

theorem bind_of_err {first : Effect σ ε α} {next : α → Effect σ ε β} {state reached : σ}
    {error : ε} (ran : first state = (.err error, reached)) :
    (first >>= next) state = (.err error, reached) := by
  rw [bind_apply, ran]

/-- A sequence succeeds exactly when both of its parts do. -/
theorem bind_eq_ok_iff {first : Effect σ ε α} {next : α → Effect σ ε β} {state last : σ}
    {result : β} :
    (first >>= next) state = (.ok result, last) ↔
      ∃ value reached, first state = (.ok value, reached) ∧
        next value reached = (.ok result, last) := by
  rw [bind_apply]
  rcases first state with ⟨_ | _ | _, reached⟩ <;> simp

/-- A relation between states that every step respects holds across a sequence,
however it ends. -/
theorem bind_relates (relates : σ → σ → Prop)
    (transitive : ∀ first second third, relates first second → relates second third →
      relates first third)
    {first : Effect σ ε α} {next : α → Effect σ ε β} {state : σ}
    (firstRelates : relates state (first state).2)
    (nextRelates : ∀ value reached, first state = (.ok value, reached) →
      relates reached (next value reached).2) :
    relates state ((first >>= next) state).2 := by
  rw [bind_apply]
  rcases ran : first state with ⟨value | _ | _, reached⟩ <;> rw [ran] at firstRelates
  · exact transitive _ _ _ firstRelates (nextRelates value reached ran)
  · exact firstRelates
  · exact firstRelates

end Effect

end ChatixProtocol
