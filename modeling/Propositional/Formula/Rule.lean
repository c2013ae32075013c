import Propositional.Formula.Basic

/-!
# Transformation rules

Four rules turn a node into an equivalent formula of another shape:

* De Morgan: `a ∨ b` becomes `¬(¬a ∧ ¬b)`, and `a ∧ b` becomes `¬(¬a ∨ ¬b)`;
* disjunction: `a → b` becomes `¬a ∨ b`;
* conditionals: `a ↔ b` becomes `(a → b) ∧ (b → a)`;
* double negation: `¬¬a` becomes `a`.

A transformation builds new nodes around the operands it was given and changes none of them.
`Rule.transform?` is the rule on the nodes it applies to. `Rule.apply` is what happens when a rule
is called on an arbitrary formula: it may not be a node of the rule's kind, it may be an empty
node of that kind, and the double-negation rule refuses a negation whose operand is no negation.
-/

namespace Propositional

/-- The transformation rules. -/
inductive Rule where
  | deMorgan
  | disjunction
  | conditionals
  | doubleNegation
deriving DecidableEq, Repr

namespace Rule

/-- The node kinds a rule is written for. -/
def accepts : Rule → NodeKind → Bool
  | .deMorgan, .binary .or => true
  | .deMorgan, .binary .and => true
  | .disjunction, .binary .conditional => true
  | .conditionals, .binary .biconditional => true
  | .doubleNegation, .not => true
  | _, _ => false

/-- The rule on the nodes it transforms; `none` on every other formula. -/
def transform? : Rule → Formula → Option Formula
  | .deMorgan, .bin .or a b => some (.not (.bin .and (.not a) (.not b)))
  | .deMorgan, .bin .and a b => some (.not (.bin .or (.not a) (.not b)))
  | .disjunction, .bin .conditional a b => some (.bin .or (.not a) b)
  | .conditionals, .bin .biconditional a b =>
    some (.bin .and (.bin .conditional a b) (.bin .conditional b a))
  | .doubleNegation, .not (.not a) => some a
  | _, _ => none

end Rule

/-- What calling a rule on a formula comes to: the transformed formula; a refusal of a negation
whose operand is no negation; a formula that is no node of the rule's kind; or an empty node of
that kind, which has nothing to transform. -/
inductive Application where
  | transformed (result : Formula)
  | refused
  | unsuitable
  | emptyReceiver
deriving DecidableEq, Repr

/-- Calls a rule on a formula. -/
def Rule.apply (r : Rule) (f : Formula) : Application :=
  match f.kind? with
  | none => .unsuitable
  | some k =>
    if r.accepts k then
      if f.isNull then .emptyReceiver
      else
        match r.transform? f with
        | some g => .transformed g
        | none => .refused
    else .unsuitable

example : Rule.deMorgan.apply (.bin .or (.lit true) .absent) =
    .transformed (.not (.bin .and (.not (.lit true)) (.not .absent))) := by decide

example : Rule.doubleNegation.apply (.not (.lit true)) = .refused := by decide

example : Rule.deMorgan.apply (.empty (.binary .or)) = .emptyReceiver := by decide

end Propositional
