/-!
# Working in place

What is done step by step to a state may fail half way, and then what the steps before have changed
stays changed. The lemmas tell the outcome of each step, so they also tell what is left of the state
when a later one fails. Work that is never left half done answers as one step would (`settled`).
-/

namespace ScriptDesk

/-- Work on a state. What it has changed stays changed if it fails. -/
abbrev InPlace (ε σ : Type) : Type → Type :=
  ExceptT ε (StateM σ)

namespace InPlace

variable {ε σ α β : Type}

/-- What work returns, and what the state is afterwards. -/
def outcome (work : InPlace ε σ α) (state : σ) : Except ε α × σ :=
  work.run.run state

theorem outcome_pure (a : α) (state : σ) :
    (pure a : InPlace ε σ α).outcome state = (.ok a, state) := rfl

theorem outcome_get (state : σ) : (get : InPlace ε σ σ).outcome state = (.ok state, state) := rfl

theorem outcome_modify (f : σ → σ) (state : σ) :
    (modify f : InPlace ε σ PUnit).outcome state = (.ok ⟨⟩, f state) := rfl

/-- The second step begins with what the first one left, unless that failed. -/
theorem outcome_bind (work : InPlace ε σ α) (next : α → InPlace ε σ β) (state : σ) :
    (work >>= next).outcome state =
      match work.outcome state with
      | (.ok a, after) => (next a).outcome after
      | (.error e, after) => (.error e, after) := by
  unfold outcome
  change ExceptT.bindCont next (work.run.run state).1 (work.run.run state).2 = _
  obtain ⟨result, after⟩ := work.run.run state
  cases result with
  | ok a => rfl
  | error e => rfl

/-- The outcome of work that is never left half done: what comes with an answer is there afterwards,
and if it fails the state is as it was. -/
def settled (state : σ) : Except ε (α × σ) → Except ε α × σ
  | .ok (a, after) => (.ok a, after)
  | .error e => (.error e, state)

end InPlace

end ScriptDesk
