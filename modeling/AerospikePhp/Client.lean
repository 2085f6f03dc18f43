import AerospikePhp.Errors
import AerospikePhp.Value.ToValue

/-!
# Calls of the client

A method of `Client` sends a request to the daemon and interprets its answer. The
daemon recovers a panic of a handler (`main.go` lines 121–131), and the request then
fails with a status.
-/

namespace AerospikePhp

/-- What the program sees of a call: the exceptions that are thrown with
    `throw_object`, in order, and the value that is returned or the text of the
    exception that the method fails with. -/
structure CallResult (α : Type) where
  thrown : List AerospikeException
  result : Except String α

namespace CallResult

variable {α : Type}

/-- An exception is pending after the call. -/
def Raises (c : CallResult α) : Prop := c.thrown ≠ [] ∨ ∃ text, c.result = .error text

/-- The call returns to the program with this value. -/
def Returns (c : CallResult α) (value : α) : Prop := c.thrown = [] ∧ c.result = .ok value

end CallResult

/-- What a call of a method of `Client` does: the requests it sends, and what the
    program sees. -/
structure Called (ρ α : Type) extends CallResult α where
  sent : List ρ

/-- One request is sent, and the program sees this. -/
def Called.sending {ρ α : Type} (request : ρ) (c : CallResult α) : Called ρ α :=
  { c with sent := [request] }

/-- The answer of a handler, as a client sees it. -/
def recovered {α : Type} (statusText : Panic → String) (answer : Except Panic α) :
    Except String α :=
  answer.mapError statusText

theorem recovered_eq_ok {α : Type} {statusText : Panic → String} {answer : Except Panic α} {a : α} :
    recovered statusText answer = .ok a ↔ answer = .ok a := by
  cases answer with
  | error p => simp [recovered, Except.mapError]
  | ok b => simp [recovered, Except.mapError]

end AerospikePhp
