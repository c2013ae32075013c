/-!
# Propositional formulas

`Formula` is a propositional formula over negation and the four binary connectives And, Or,
Conditional and BiConditional, with literal leaves and references to named Boolean variables.

A formula is kept exactly as it was built, defects included. A position may hold no formula at
all (`absent`), an empty node of some kind (`empty`), or a reference that names no variable
(`dangling`). None of these has a truth value; `Propositional.Formula.Eval` says how evaluation
reports them. This file holds the types, the operand list of a node and the textual form.

## Main definitions

* `Propositional.Formula`: formulas with their possible defects.
* `Propositional.Formula.operands`: the operands of a node, in order.
* `Propositional.Formula.render`: the text `Name(op1, op2)` under a valuation of the variables.
-/

namespace Propositional

/-- The four binary connectives; the antecedent of a conditional is its left operand. -/
inductive Binary where
  | and
  | or
  | conditional
  | biconditional
deriving DecidableEq, Repr

namespace Binary

/-- The truth function of the connective. -/
def apply : Binary → Bool → Bool → Bool
  | .and, x, y => x && y
  | .or, x, y => x || y
  | .conditional, x, y => !x || y
  | .biconditional, x, y => x == y

/-- The name under which the connective is written. -/
def name : Binary → String
  | .and => "And"
  | .or => "Or"
  | .conditional => "Conditional"
  | .biconditional => "BiConditional"

theorem name_injective {p q : Binary} (h : p.name = q.name) : p = q := by
  cases p <;> cases q <;> simp_all [name]

end Binary

/-- The kinds of node. An empty node still has one of these kinds. -/
inductive NodeKind where
  | not
  | binary (op : Binary)
  | ref
deriving DecidableEq, Repr

/-- The name under which nodes of the kind are written. -/
def NodeKind.name : NodeKind → String
  | .not => "Not"
  | .binary op => op.name
  | .ref => "Ref"

/-- Values of the variables, by name. -/
abbrev Valuation := String → Bool

/-- A propositional formula, possibly with defective positions: `var x` reads the variable `x`
when the formula is used, `dangling` is a reference that names no variable, `absent` is no formula
at all, and `empty k` an empty node of kind `k`, with no operands and no value. -/
inductive Formula where
  | lit (value : Bool)
  | var (name : String)
  | dangling
  | not (a : Formula)
  | bin (op : Binary) (a b : Formula)
  | absent
  | empty (kind : NodeKind)
deriving DecidableEq, Repr

namespace Formula

/-- A formula is null when it holds no node: it is absent, or an empty node. -/
def isNull : Formula → Bool
  | .absent => true
  | .empty _ => true
  | _ => false

/-- The kind of node a formula is, empty nodes included. Literals and absent formulas have none. -/
def kind? : Formula → Option NodeKind
  | .not _ => some .not
  | .bin op _ _ => some (.binary op)
  | .var _ => some .ref
  | .dangling => some .ref
  | .empty k => some k
  | _ => none

/-- The operands of a node, in order. Leaves, and all null formulas, have none. -/
def operands : Formula → List Formula
  | .not a => [a]
  | .bin _ a b => [a, b]
  | _ => []

/-- The text of a truth value. -/
def truthText (b : Bool) : String := if b then "True" else "False"

/-- The textual form `Name(op1, op2)`. A variable is shown by its current value, a dangling
reference as `Ref(<nil>)`, and a null operand as `<nil>`. -/
def render (σ : Valuation) : Formula → String
  | .lit v => truthText v
  | .var x => truthText (σ x)
  | .dangling => "Ref(<nil>)"
  | .absent => "<nil>"
  | .empty _ => "<nil>"
  | .not a => "Not(" ++ a.render σ ++ ")"
  | .bin op a b => op.name ++ "(" ++ a.render σ ++ ", " ++ b.render σ ++ ")"

example : (Formula.bin .and (.bin .or (.lit true) (.lit false)) (.not (.lit false))).render
    (fun _ => true) = "And(Or(True, False), Not(False))" := by decide

@[simp] theorem operands_not (a : Formula) : (Formula.not a).operands = [a] := rfl

@[simp] theorem operands_bin (op : Binary) (a b : Formula) : (Formula.bin op a b).operands = [a, b] :=
  rfl

end Formula

end Propositional
