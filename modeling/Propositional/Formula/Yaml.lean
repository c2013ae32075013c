import Propositional.Formula.Eval
import Propositional.Yaml

/-!
# Formulas as YAML

A formula is written as a YAML value: a literal or a variable as its truth value, and a node as a
mapping from the connective's name to the sequence of its operands.

A node first looks at all of its operands, left to right, and refuses the first that is null;
only then does it write them, in order. A dangling reference is refused when it is itself
written. So the defect reported is the first one met by that walk, which need not be the one
evaluation reports: in `And(Not(<nil>), <empty Or>)` the empty `Or` is seen first.
A null formula at the top is the document `null`.
-/

namespace Propositional.Formula

/-- The defect of a null formula. -/
def nullDefect? : Formula → Option Defect
  | .absent => some .absent
  | .empty k => some (.empty k)
  | _ => none

/-- The YAML value of a formula, or the defect that stops it from being written. -/
def toYaml (σ : Valuation) : Formula → Except Defect Yaml.Node
  | .lit v => .ok (.bool v)
  | .var x => .ok (.bool (σ x))
  | .dangling => .error .dangling
  | .absent => .error .absent
  | .empty k => .error (.empty k)
  | .not a =>
    match a.nullDefect? with
    | some d => .error d
    | none =>
      match a.toYaml σ with
      | .error d => .error d
      | .ok y => .ok (.entry "Not" [y])
  | .bin op a b =>
    match a.nullDefect?, b.nullDefect? with
    | some d, _ => .error d
    | none, some d => .error d
    | none, none =>
      match a.toYaml σ with
      | .error d => .error d
      | .ok ya =>
        match b.toYaml σ with
        | .error d => .error d
        | .ok yb => .ok (.entry op.name [ya, yb])

/-- The YAML document of a formula: `null` for a null formula, else its value written out. -/
def yamlDocument (σ : Valuation) (f : Formula) : Except Defect String :=
  if f.isNull then .ok Yaml.nullDocument
  else
    match f.toYaml σ with
    | .ok y => .ok y.render
    | .error d => .error d

example : ((Formula.bin .and (.not .absent) (.empty (.binary .or))).yamlDocument (fun _ => true)
    matches .error (.empty (.binary .or))) = true := by decide

end Propositional.Formula
