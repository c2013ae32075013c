import Propositional.Failure
import Propositional.Formula.Rule
import Propositional.Formula.Yaml

/-!
# Methods of formulas

A formula is asked for its text, its truth value, its operands or its YAML value by calling a
method on it, and a transformation is such a call too. A method reads the fields of its receiver,
so calling one on an empty formula, which has none, crashes: it fails with `emptyReceiver`. The
one method that reads nothing is the operand list of a reference.

The methods of a node call the same methods on its operands, and a node checks each operand
before it does (`Formula.guarded`): its text shows an empty operand as `<nil>`, its truth value
reports one as an operand without truth value, and its YAML value refuses every empty operand
before it writes any. Only what a caller asks of a formula directly is asked without a check.
`Propositional.Proofs.GuardedCalls` shows that these checks are enough: on a formula whose top is
not empty, every method gives what the total functions `render`, `eval` and `toYaml` give.

## Main definitions

* `Formula.guarded`: the check made before a method is called on an operand.
* `Formula.text?`, `Formula.truthValue?`, `Formula.operands?`, `Formula.marshal?`: the methods.
* `Formula.isTrue?`, `Formula.yaml?`: the truth value and the YAML document of any formula, empty
  ones included, which are checked before any method is called.
-/

namespace Propositional

namespace Formula

/-- The check made before a method is called on a formula that may be empty: an empty formula is
never called and gives `onEmpty` of the defect it is; any other gives the outcome of `call`. -/
def guarded {α : Type} (f : Formula) (onEmpty : Defect → Except Failure α)
    (call : Except Failure α) : Except Failure α :=
  match f.nullDefect? with
  | some d => onEmpty d
  | none => call

/-- The failure that reports a formula without truth value, of the type the defect names. -/
def typeMismatch {α : Type} (d : Defect) : Except Failure α := .error (.noTruthValue ⟨[], d⟩)

/-- The text of a formula, from its `String` method. A node asks each operand that is not empty
for its own text, and shows an empty one as `<nil>`. -/
def text? (σ : Valuation) : Formula → Except Failure String
  | .lit v => .ok (truthText v)
  | .var x => .ok (truthText (σ x))
  | .dangling => .ok "Ref(<nil>)"
  | .absent => .error .emptyReceiver
  | .empty _ => .error .emptyReceiver
  | .not a => do
    let s ← a.guarded (fun _ => .ok "<nil>") (a.text? σ)
    pure ("Not(" ++ s ++ ")")
  | .bin op a b => do
    let s ← a.guarded (fun _ => .ok "<nil>") (a.text? σ)
    let t ← b.guarded (fun _ => .ok "<nil>") (b.text? σ)
    pure (op.name ++ "(" ++ s ++ ", " ++ t ++ ")")

/-- The truth value of a formula, from its `TruthValue` method. A node solves each operand as
`isTrue?` does: an empty operand has no truth value, and any other is asked for its own. A failure
inside an operand is reported with the operand's position; both operands of a binary connective
are solved, left first. -/
def truthValue? (σ : Valuation) : Formula → Except Failure Bool
  | .lit v => .ok v
  | .var x => .ok (σ x)
  | .dangling => typeMismatch .dangling
  | .absent => .error .emptyReceiver
  | .empty _ => .error .emptyReceiver
  | .not a => do
    let v ← (a.guarded typeMismatch (a.truthValue? σ)).mapError (Failure.within .negand)
    pure !v
  | .bin op a b => do
    let x ← (a.guarded typeMismatch (a.truthValue? σ)).mapError (Failure.within (.left op))
    let y ← (b.guarded typeMismatch (b.truthValue? σ)).mapError (Failure.within (.right op))
    pure (op.apply x y)

/-- The truth value of any formula: an empty one has none, and any other is asked for its own. -/
def isTrue? (σ : Valuation) (f : Formula) : Except Failure Bool :=
  f.guarded typeMismatch (f.truthValue? σ)

/-- The operands of a formula, from its `Scope` method. A reference reads nothing of itself to
answer, so an empty reference has no operands; every other empty formula crashes. -/
def operands? : Formula → Except Failure (List Formula)
  | .absent => .error .emptyReceiver
  | .empty .ref => .ok []
  | .empty _ => .error .emptyReceiver
  | f => .ok f.operands

/-- Whether a negation can lose a double negation: its operand is a negation, and not an empty
one. Asked of a formula that is no negation, the question is malformed. -/
def canDropDoubleNegation? : Formula → Except Failure Bool
  | .not a => .ok (a.kind? == some .not && !a.isNull)
  | .empty .not => .error .emptyReceiver
  | _ => .error .malformed

/-- A rule applied to a formula as a query. A refusal is a failure that shows the formula, by its
own text. -/
def transform? (σ : Valuation) (r : Rule) (f : Formula) : Except Failure Formula :=
  match r.apply f with
  | .transformed g => .ok g
  | .refused => do .error (.notDoubleNegation (← f.text? σ))
  | .unsuitable => .error .malformed
  | .emptyReceiver => .error .emptyReceiver

/-- The YAML value of a formula, from its `MarshalYAML` method and the operands the encoder writes
out for it. A node checks all its operands, left to right, and refuses the first empty one; only
then is each operand asked for its own value. A reference gives its truth value. -/
def marshal? (σ : Valuation) : Formula → Except Failure Yaml.Node
  | .lit v => .ok (.bool v)
  | .var x => Yaml.Node.bool <$> (Formula.var x).truthValue? σ
  | .dangling => Yaml.Node.bool <$> Formula.dangling.truthValue? σ
  | .absent => .error .emptyReceiver
  | .empty _ => .error .emptyReceiver
  | .not a =>
    a.guarded typeMismatch do
      let y ← a.marshal? σ
      pure (.entry "Not" [y])
  | .bin op a b =>
    a.guarded typeMismatch <| b.guarded typeMismatch do
      let ya ← a.marshal? σ
      let yb ← b.marshal? σ
      pure (.entry op.name [ya, yb])

/-- The YAML document of any formula: an empty one is the document `null`, found before any
method is called, and any other is asked for its value. -/
def yaml? (σ : Valuation) (f : Formula) : Except Failure String :=
  f.guarded (fun _ => .ok Yaml.nullDocument) (Yaml.Node.render <$> f.marshal? σ)

example : (Formula.bin .or (.lit true) (.empty .not)).text? (fun _ => true) = .ok "Or(True, <nil>)" :=
  rfl

example : (Formula.not (.empty .not)).canDropDoubleNegation? = .ok false := rfl

end Formula

end Propositional
