import Propositional.Formula.Basic

/-!
# Evaluation

`Formula.eval` computes the truth value of a formula under a valuation of its variables. It
evaluates every operand, left before right, with no short circuit, and fails at the first defect
it meets. The failure, a `Mismatch`, records the defect and the chain of operand positions that
led to it; `Mismatch.message` writes that chain out.

Beside the evaluator stand the two definitions it is measured against: `Formula.denote`, the
standard Boolean meaning of a formula, and `Formula.defects`, the defects of a formula in the
order of a left-to-right walk.
-/

namespace Propositional

/-- A position without a truth value. -/
inductive Defect where
  | absent
  | empty (kind : NodeKind)
  | dangling
deriving DecidableEq, Repr

/-- The type name under which a defect is reported. -/
def Defect.typeName : Defect → String
  | .absent => "<nil>"
  | .empty k => "*logic." ++ k.name
  | .dangling => "*bool"

/-- The step from a node into one of its operands. -/
inductive Frame where
  | negand
  | left (op : Binary)
  | right (op : Binary)
deriving DecidableEq, Repr

/-- The words that report a failure inside the operand a frame leads to. -/
def Frame.text : Frame → String
  | .negand => "failed solving operand of Not: "
  | .left op => "failed solving left operand of " ++ op.name ++ ": "
  | .right op => "failed solving right operand of " ++ op.name ++ ": "

/-- Why a formula has no truth value: the operand positions from the top down to a defect,
outermost first. -/
structure Mismatch where
  frames : List Frame
  defect : Defect
deriving DecidableEq, Repr

namespace Mismatch

/-- The same failure, seen from one node further up. -/
def within (f : Frame) (m : Mismatch) : Mismatch := ⟨f :: m.frames, m.defect⟩

/-- The report of the failure: one clause per frame, then the type that has no truth value. -/
def message (m : Mismatch) : String :=
  String.join (m.frames.map Frame.text) ++ "operand of type " ++ m.defect.typeName ++
    " has no truth value"

end Mismatch

namespace Formula

/-- The defect a formula is, if it is one. -/
def defect? : Formula → Option Defect
  | .absent => some .absent
  | .empty k => some (.empty k)
  | .dangling => some .dangling
  | _ => none

/-- The truth value of a formula. Both operands of a binary connective are evaluated, left first,
and the first defect met ends the evaluation. -/
def eval (σ : Valuation) : Formula → Except Mismatch Bool
  | .lit v => .ok v
  | .var x => .ok (σ x)
  | .dangling => .error ⟨[], .dangling⟩
  | .absent => .error ⟨[], .absent⟩
  | .empty k => .error ⟨[], .empty k⟩
  | .not a =>
    match a.eval σ with
    | .ok v => .ok (!v)
    | .error m => .error (m.within .negand)
  | .bin op a b =>
    match a.eval σ with
    | .error m => .error (m.within (.left op))
    | .ok x =>
      match b.eval σ with
      | .error m => .error (m.within (.right op))
      | .ok y => .ok (op.apply x y)

/-- The standard Boolean meaning of a formula. It is meant for formulas without defects, and
gives `false` at a defect. -/
def denote (σ : Valuation) : Formula → Bool
  | .lit v => v
  | .var x => σ x
  | .not a => !a.denote σ
  | .bin op a b => op.apply (a.denote σ) (b.denote σ)
  | _ => false

/-- The defects of a formula, in the order of a left-to-right walk. -/
def defects : Formula → List Defect
  | .not a => a.defects
  | .bin _ a b => a.defects ++ b.defects
  | f => f.defect?.toList

example : ((Formula.bin .and (.lit true) (.not (.lit true))).eval (fun _ => true)).toOption =
    some false := by
  decide

example : ((Formula.bin .or (.lit true) (.empty .ref)).eval (fun _ => true)).toOption = none := by
  decide

end Formula

end Propositional
