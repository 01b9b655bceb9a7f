import ScyllaWrapper.Types

/-!
Runs of the iterator protocol. A cursor is stepped by `cass_iterator_next`, which updates it
and returns whether it now stands on an element. Positional cursors share one step: the unset
position becomes 0, a set one moves by one, and the call succeeds while the new position is
below a count fixed at construction.
-/
namespace Cursors

variable {σ : Type}

def afterCalls (step : σ → σ × Bool) : Nat → σ → σ
  | 0, s => s
  | k + 1, s => afterCalls step k (step s).1

/-- What call number `k + 1` returns. -/
def callResult (step : σ → σ × Bool) (s : σ) (k : Nat) : Bool := (step (afterCalls step k s)).2

theorem afterCalls_succ (step : σ → σ × Bool) (k : Nat) (s : σ) :
    afterCalls step (k + 1) s = (step (afterCalls step k s)).1 := by
  induction k generalizing s with
  | zero => rfl
  | succ k ih => exact ih (step s).1

/-- `new_pos = position.map_or(0, |prev_pos| prev_pos + 1)`, stored, then `new_pos < count`. -/
def advancePosition (position : Option Nat) (count : Nat) : Option Nat × Bool :=
  let newPos := position.elim 0 (· + 1)
  (some newPos, decide (newPos < count))

/-- The position of a positional cursor after `k` calls: unset before the first call. -/
def positionAfter : Nat → Option Nat
  | 0 => none
  | k + 1 => some k

@[simp] theorem advancePosition_positionAfter (k count : Nat) :
    advancePosition (positionAfter k) count = (positionAfter (k + 1), decide (k < count)) := by
  cases k <;> rfl

section Forwarding
variable {τ : Type} (wrap : σ → τ) (inner : σ → σ × Bool) (outer : τ → τ × Bool)

/-- A step on wrapped states that performs the step of the state inside. -/
def Forwards : Prop := ∀ s, outer (wrap s) = (wrap (inner s).1, (inner s).2)

variable {wrap inner outer}

theorem Forwards.afterCalls (forwards : Forwards wrap inner outer) (k : Nat) (s : σ) :
    afterCalls outer k (wrap s) = wrap (afterCalls inner k s) := by
  induction k generalizing s with
  | zero => rfl
  | succ k ih => rw [Cursors.afterCalls, forwards, ih]; rfl

theorem Forwards.callResult (forwards : Forwards wrap inner outer) (s : σ) (k : Nat) :
    callResult outer (wrap s) k = callResult inner s k := by
  rw [Cursors.callResult, forwards.afterCalls, forwards]; rfl

end Forwarding

theorem afterCalls_advancePosition (count k : Nat) :
    afterCalls (fun position => advancePosition position count) k none = positionAfter k := by
  induction k with
  | zero => rfl
  | succ k ih => rw [afterCalls_succ, ih, advancePosition_positionAfter]

section Positional
variable (mk : Option Nat → σ) (step : σ → σ × Bool) (count : Nat)

/-- A cursor family indexed by its position, whose step is the positional step. -/
def PositionalStep : Prop := Forwards mk (fun position => advancePosition position count) step

variable {mk step count}

theorem PositionalStep.afterCalls (positional : PositionalStep mk step count) (k : Nat) :
    afterCalls step k (mk none) = mk (positionAfter k) := by
  rw [Forwards.afterCalls positional, afterCalls_advancePosition]

theorem PositionalStep.callResult (positional : PositionalStep mk step count) (k : Nat) :
    callResult step (mk none) k = decide (k < count) := by
  rw [Forwards.callResult positional, Cursors.callResult, afterCalls_advancePosition,
    advancePosition_positionAfter]

end Positional

end Cursors
