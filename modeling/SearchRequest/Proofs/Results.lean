import SearchRequest.Logging.Logger

/-! # Results of logged computations

A logged computation gives a result and leaves a logger. Each is described on its own here, so that
statements on results need not mention the records.
-/

namespace SearchRequest.Logged

variable {α β : Type}

/-- What the computation gives when it starts with this logger. -/
def result (x : Logged α) (l : Logger) : α :=
  (x.run l).1

/-- The logger that the computation leaves. -/
def logger (x : Logged α) (l : Logger) : Logger :=
  (x.run l).2

@[simp] theorem result_pure (a : α) (l : Logger) : result (pure a) l = a := rfl

@[simp] theorem result_map (f : α → β) (x : Logged α) (l : Logger) :
    result (f <$> x) l = f (x.result l) := rfl

@[simp] theorem result_bind (x : Logged α) (f : α → Logged β) (l : Logger) :
    result (x >>= f) l = result (f (x.result l)) (x.logger l) := rfl

end SearchRequest.Logged
