import Propositional.Failure
import Propositional.Formula.Rule

/-!
# Terms

A `Term` describes how to build a formula. Beside the formulas' own shapes it may name a
variable, a placeholder of a truth table, a formula stored earlier, or a transformation rule applied to
the formula of a subterm. A term may also be unreadable: a description that matches no shape.

`Term.build` turns a term into a formula against `Bindings`, which say which variables exist,
which formulas are stored and what the placeholders stand for. It builds subterms from left to
right, depth first, and stops at the first failure:

* an unreadable term, a variable that does not exist, an unknown stored name, an unbound
  placeholder, or a rule applied to a formula that is not a node of the rule's kind make the term
  `malformed`;
* a rule applied to an empty node of its kind fails with `emptyReceiver`;
* a double negation that cannot be removed builds no formula at all: the term stands for the
  absent formula.
-/

namespace Propositional

/-- The placeholders of a truth table. -/
inductive Param where
  | a
  | b
deriving DecidableEq, Repr

/-- A description of a formula. -/
inductive Term where
  | lit (value : Bool)
  | absent
  | empty (kind : NodeKind)
  | ref (name : String)
  | dangling
  | not (t : Term)
  | bin (op : Binary) (s t : Term)
  | param (p : Param)
  | stored (name : String)
  | byRule (r : Rule) (t : Term)
  | unreadable
deriving DecidableEq, Repr, Inhabited

/-- What a term may refer to. -/
structure Bindings where
  declared : String → Bool
  stored : String → Option Formula
  param : Param → Option Formula

namespace Term

/-- The formula a rule application stands for: the transformed formula, the absent formula when
the rule refuses, and a failure when the formula is no node of the rule's kind or is empty. -/
def applyRule (r : Rule) (f : Formula) : Except Failure Formula :=
  match r.apply f with
  | .transformed g => .ok g
  | .refused => .ok .absent
  | .unsuitable => .error .malformed
  | .emptyReceiver => .error .emptyReceiver

/-- The formula a term describes, built from left to right. -/
def build (β : Bindings) : Term → Except Failure Formula
  | .lit v => .ok (.lit v)
  | .absent => .ok .absent
  | .empty k => .ok (.empty k)
  | .ref x => if β.declared x then .ok (.var x) else .error .malformed
  | .dangling => .ok .dangling
  | .not t =>
    match build β t with
    | .ok a => .ok (.not a)
    | .error e => .error e
  | .bin op s t =>
    match build β s with
    | .error e => .error e
    | .ok a =>
      match build β t with
      | .error e => .error e
      | .ok b => .ok (.bin op a b)
  | .param p =>
    match β.param p with
    | some f => .ok f
    | none => .error .malformed
  | .stored x =>
    match β.stored x with
    | some f => .ok f
    | none => .error .malformed
  | .byRule r t =>
    match build β t with
    | .error e => .error e
    | .ok f => applyRule r f
  | .unreadable => .error .malformed

end Term

example : ((Term.byRule .doubleNegation (.not (.lit true))).build
    ⟨fun _ => false, fun _ => none, fun _ => none⟩).toOption = some .absent := by
  decide

example : ((Term.bin .and (.byRule .deMorgan (.empty (.binary .or))) .unreadable).build
    ⟨fun _ => false, fun _ => none, fun _ => none⟩ matches .error .emptyReceiver) = true := by
  decide

end Propositional
