/-!
# What is waited for

What is asked of another party may be answered with a value or with an error, and it may never be
answered at all. Whoever waits for it without a limit then waits forever.

## Main definitions

* `Awaited` : what comes of something that is waited for.
* `Awaited.ofExcept`, `Awaited.bind` : what is there at once, and what is waited for next.
-/

namespace Gatehouse

/-- What comes of something that is waited for. -/
inductive Awaited (ε α : Type) where
  | ok (x : α)
  | error (e : ε)
  /-- Nothing ever comes of it. -/
  | pending
  deriving DecidableEq, Repr

namespace Awaited

variable {ε α β : Type}

/-- What is there at once, as something that is waited for. -/
def ofExcept : Except ε α → Awaited ε α
  | .ok x => .ok x
  | .error e => .error e

/-- Something is waited for, and then something else that depends on it. -/
def bind (x : Awaited ε α) (next : α → Awaited ε β) : Awaited ε β :=
  match x with
  | .ok x => next x
  | .error e => .error e
  | .pending => .pending

@[simp] theorem ofExcept_ok (x : α) : (ofExcept (.ok x) : Awaited ε α) = .ok x := rfl

end Awaited

end Gatehouse
