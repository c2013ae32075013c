import Propositional.Formula.Eval

/-!
# Failures

A request about formulas either answers or fails, and `Failure` says why it failed:

* a formula had no truth value (`noTruthValue`), possibly while a truth table was filled in
  (`row`), possibly while two tables were being compared (`comparison`);
* a double negation was to be removed from a negation of something else (`notDoubleNegation`);
* an operation was called on an empty formula, which it cannot look into (`emptyReceiver`);
* the request does not describe a formula or an operation on one (`malformed`).

`Failure.message` writes each cause as a report whose clauses go from the outside in, ending at
the root cause.
-/

namespace Propositional

/-- A truth-table row whose formula has no truth value: the row's assignment and the cause. -/
structure RowFailure where
  assignment : List Bool
  cause : Mismatch
deriving DecidableEq, Repr

/-- The report of a failed row: the assignment, then the cause. -/
def RowFailure.message (r : RowFailure) : String :=
  "failed solving row (" ++ ", ".intercalate (r.assignment.map Formula.truthText) ++ "): " ++
    r.cause.message

/-- The two tables of a comparison. -/
inductive Side where
  | first
  | second
deriving DecidableEq, Repr

/-- The word that names a side in a report. -/
def Side.ordinal : Side → String
  | .first => "first"
  | .second => "second"

/-- Why a request failed. -/
inductive Failure where
  | noTruthValue (m : Mismatch)
  | row (r : RowFailure)
  | comparison (side : Side) (r : RowFailure)
  | notDoubleNegation (shown : String)
  | emptyReceiver
  | malformed
deriving DecidableEq, Repr

namespace Failure

/-- The report of a failure; a malformed request has none. -/
def message : Failure → Option String
  | .noTruthValue m => some m.message
  | .row r => some r.message
  | .comparison side r =>
    some ("failed building " ++ side.ordinal ++ " truth table: " ++ r.message)
  | .notDoubleNegation shown =>
    some ("cannot remove double negation from " ++ shown ++ ": operand is not a negation")
  | .emptyReceiver => some "runtime error: invalid memory address or nil pointer dereference"
  | .malformed => none

/-- A failure met while solving an operand, seen from its node: a missing truth value is
reported with the operand's position, and every other failure passes through as it is. -/
def within (frame : Frame) : Failure → Failure
  | .noTruthValue m => .noTruthValue (m.within frame)
  | f => f

/-- A failure met while solving the formula of a truth-table row: a missing truth value is
reported with the row's assignment, and every other failure passes through as it is. -/
def inRow (assignment : List Bool) : Failure → Failure
  | .noTruthValue m => .row ⟨assignment, m⟩
  | f => f

/-- A failure met while building the table of the given side of a comparison: a failed row
is reported as belonging to that table, every other failure stays as it is. -/
def inTable (side : Side) : Failure → Failure
  | .row r => .comparison side r
  | f => f

end Failure

example : (Failure.comparison .second ⟨[true, true], ⟨[.negand], .empty .ref⟩⟩).message =
    some ("failed building second truth table: failed solving row (True, True): " ++
      "failed solving operand of Not: operand of type *logic.Ref has no truth value") := by
  decide

end Propositional
