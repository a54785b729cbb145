import ScopedConfig.Store.EvalError

/-! The outcome of an evaluation: its result, and the symbols that the owner of
the store was asked for on the way, in order and with repetitions. -/
namespace ScopedConfig

/-- A result with the symbols asked for. -/
structure Outcome (α : Type) where
  asked : List Text
  result : Except EvalError α

namespace Outcome

variable {α β : Type}

/-- A value found without asking. -/
def ok (value : α) : Outcome α := ⟨[], .ok value⟩

/-- An error found without asking. -/
def error (e : EvalError) : Outcome α := ⟨[], .error e⟩

/-- A result found without asking. -/
def ofResult (result : Except EvalError α) : Outcome α := ⟨[], result⟩

/-- Asks for what follows from a value, unless there is an error. -/
def andThen (first : Outcome α) (next : α → Outcome β) : Outcome β :=
  match first.result with
  | .ok value =>
    let second := next value
    ⟨first.asked ++ second.asked, second.result⟩
  | .error e => ⟨first.asked, .error e⟩

instance : Monad Outcome where
  pure := ok
  bind := andThen

/-- The result alone, for an owner that was not asked. -/
def elsewhere (outcome : Outcome α) : Outcome α := { outcome with asked := [] }

end Outcome
end ScopedConfig
