import Propositional.Formula.Methods

/-!
# Truth tables

A truth table evaluates a family of formulas, one per assignment of truth values to one or two
placeholders. The family is given as a function from the assignment to the formula, which may
itself fail to be built. The assignments come in a fixed order: `true` before `false`, and for two
placeholders the first one varies slowest, so the rows are `(T, T), (T, F), (F, T), (F, F)`.

The table is filled in row by row and stops at the first row that cannot be built or has no
truth value; such a row is reported with its assignment. `TruthTable.equivalent` builds two
tables, the first before the second, and compares their value columns.
-/

namespace Propositional

/-- A row of a table over one placeholder. -/
structure UnaryRow where
  a : Bool
  value : Bool
deriving DecidableEq, Repr

/-- A row of a table over two placeholders. -/
structure Row where
  a : Bool
  b : Bool
  value : Bool
deriving DecidableEq, Repr

namespace TruthTable

/-- The values of one placeholder, in table order. -/
def unaryAssignments : List Bool := [true, false]

/-- The assignments of two placeholders, in table order. -/
def binaryAssignments : List (Bool × Bool) :=
  unaryAssignments.flatMap fun a => unaryAssignments.map fun b => (a, b)

/-- The truth value of a row's formula; a formula without one fails the row. -/
def solveRow (σ : Valuation) (assignment : List Bool) (f : Formula) : Except Failure Bool :=
  (f.isTrue? σ).mapError (Failure.inRow assignment)

/-- The table of a family of formulas over one placeholder. -/
def unary (σ : Valuation) (family : Bool → Except Failure Formula) :
    Except Failure (List UnaryRow) :=
  unaryAssignments.mapM fun a => do
    let f ← family a
    let v ← solveRow σ [a] f
    pure ⟨a, v⟩

/-- The table of a family of formulas over two placeholders. -/
def binary (σ : Valuation) (family : Bool → Bool → Except Failure Formula) :
    Except Failure (List Row) :=
  binaryAssignments.mapM fun (a, b) => do
    let f ← family a b
    let v ← solveRow σ [a, b] f
    pure ⟨a, b, v⟩

/-- Whether two families over two placeholders have the same truth value on every assignment.
The first table is built before the second, and a failed row is reported with its table. -/
def equivalent (σ : Valuation) (first second : Bool → Bool → Except Failure Formula) :
    Except Failure Bool := do
  let r₁ ← (binary σ first).mapError (Failure.inTable .first)
  let r₂ ← (binary σ second).mapError (Failure.inTable .second)
  pure (r₁.map Row.value == r₂.map Row.value)

example : binaryAssignments = [(true, true), (true, false), (false, true), (false, false)] := by
  decide

example : ((binary (fun _ => true) fun a b => .ok (.bin .conditional (.lit a) (.lit b))).toOption.map
    (·.map Row.value)) = some [true, false, true, true] := by
  decide

end TruthTable

end Propositional
