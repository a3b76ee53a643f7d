/-! Guarded tasks.  A task sleeps for a while and then yields a value; its guard tells whether it has
ended, and aborts it, at the latest when the guard itself is given up. -/

namespace Fieldbus

inductive TaskState where
  /-- So many milliseconds remain. -/
  | sleeping (remaining : Nat)
  | yielded
  | aborted
deriving DecidableEq, Inhabited

structure GuardedTask (α : Type) where
  value : α
  state : TaskState
deriving DecidableEq, Inhabited

namespace GuardedTask

variable {α : Type}

def spawn (duration : Nat) (value : α) : GuardedTask α := ⟨value, .sleeping duration⟩

def isFinished (t : GuardedTask α) : Bool :=
  match t.state with
  | .sleeping _ => false
  | _ => true

def abort (t : GuardedTask α) : GuardedTask α :=
  match t.state with
  | .sleeping _ => { t with state := .aborted }
  | _ => t

def advance (t : GuardedTask α) (duration : Nat) : GuardedTask α :=
  match t.state with
  | .sleeping remaining =>
    { t with state := if remaining ≤ duration then .yielded else .sleeping (remaining - duration) }
  | _ => t

/-- Waits for the end of the task; an aborted task has no value. -/
def await (t : GuardedTask α) : Option α :=
  match t.state with
  | .aborted => none
  | _ => some t.value

/-- Whether the task was ended before it could yield its value. -/
def isCutShort (t : GuardedTask α) : Bool := t.state = .aborted

theorem abort_abort (t : GuardedTask α) : t.abort.abort = t.abort := by
  obtain ⟨value, state⟩ := t
  cases state <;> rfl

end GuardedTask
end Fieldbus
