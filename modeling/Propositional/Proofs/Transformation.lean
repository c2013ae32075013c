import Mathlib
import Propositional.Formula.Eval
import Propositional.Formula.Rule

/-!
# Transformations keep the outcome of evaluation

The outcome of a formula is what asking for its truth value comes to, up to the path of a failure:
either its truth value, or the defect at which evaluation stops (which fixes the operand type of
the report). The report's wording is not kept: a transformation adds negations and moves operands,
so the path to a defect changes.

This file shows that each transformation rule keeps the outcome of the node it applies to, that
the outcome of a formula depends on a subformula only through that subformula's outcome, and
hence that a transformation applied anywhere, any number of times, keeps the outcome of the whole.

## Main definitions

* `Formula.outcome`: the truth value, or the defect that stops evaluation.
* `Context`: a formula with one hole, and `Context.plug`.
* `TransformStep`: a rule applied to one subformula.

## Main statements

* `Formula.outcome_of_transform?`: a rule keeps the outcome of the node it transforms.
* `Context.outcome_plug`: equal outcomes stay equal in every context.
* `transformations_keep_outcome`: rules at the top, and any run of steps anywhere, keep the
  outcome.
-/

namespace Propositional

namespace Formula

/-- The outcome of evaluating a formula: its truth value, or the defect at which evaluation stops.
-/
def outcome (σ : Valuation) (e : Formula) : Except Defect Bool :=
  (e.eval σ).mapError Mismatch.defect

variable {σ : Valuation} {a b f g : Formula} {op : Binary}

/-! ## Outcomes are compositional -/

theorem outcome_not : (Formula.not a).outcome σ = (a.outcome σ).map (!·) := by
  cases h : a.eval σ <;> simp [outcome, eval, h, Except.mapError, Except.map, Mismatch.within]

theorem outcome_bin :
    (Formula.bin op a b).outcome σ =
      (a.outcome σ).bind fun x => (b.outcome σ).map fun y => op.apply x y := by
  cases ha : a.eval σ with
  | error m => simp [outcome, eval, ha, Except.mapError, Except.bind, Mismatch.within]
  | ok x =>
    cases hb : b.eval σ <;>
      simp [outcome, eval, ha, hb, Except.mapError, Except.bind, Except.map, Mismatch.within]

/-! ## Each rule keeps the outcome

Every rule evaluates the operands it is given in their original order before it can fail: the
conditionals rule evaluates `b` before `a` only in its second conditional, which is reached only
when both have a value. -/

theorem outcome_deMorgan_or :
    (Formula.not (.bin .and (.not a) (.not b))).outcome σ = (Formula.bin .or a b).outcome σ := by
  simp only [outcome_not, outcome_bin]
  cases a.outcome σ with
  | error d => rfl
  | ok x =>
    cases b.outcome σ with
    | error d => rfl
    | ok y => cases x <;> cases y <;> rfl

theorem outcome_deMorgan_and :
    (Formula.not (.bin .or (.not a) (.not b))).outcome σ = (Formula.bin .and a b).outcome σ := by
  simp only [outcome_not, outcome_bin]
  cases a.outcome σ with
  | error d => rfl
  | ok x =>
    cases b.outcome σ with
    | error d => rfl
    | ok y => cases x <;> cases y <;> rfl

theorem outcome_disjunction :
    (Formula.bin .or (.not a) b).outcome σ = (Formula.bin .conditional a b).outcome σ := by
  simp only [outcome_not, outcome_bin]
  cases a.outcome σ with
  | error d => rfl
  | ok x =>
    cases b.outcome σ with
    | error d => rfl
    | ok y => cases x <;> cases y <;> rfl

/-- The second conditional reads `b` before `a`, but only after the first has read both. -/
theorem outcome_conditionals :
    (Formula.bin .and (.bin .conditional a b) (.bin .conditional b a)).outcome σ =
      (Formula.bin .biconditional a b).outcome σ := by
  simp only [outcome_bin]
  cases a.outcome σ with
  | error d => rfl
  | ok x =>
    cases b.outcome σ with
    | error d => rfl
    | ok y => cases x <;> cases y <;> rfl

theorem outcome_doubleNegation : (Formula.not (.not a)).outcome σ = a.outcome σ := by
  simp only [outcome_not]
  cases a.outcome σ with
  | error d => rfl
  | ok x => cases x <;> rfl

/-- A rule keeps the outcome of the node it transforms, whatever the operands, defective ones
included. -/
theorem outcome_of_transform? {r : Rule} (h : r.transform? f = some g) :
    g.outcome σ = f.outcome σ := by
  unfold Rule.transform? at h
  split at h
  · cases h
    exact outcome_deMorgan_or
  · cases h
    exact outcome_deMorgan_and
  · cases h
    exact outcome_disjunction
  · cases h
    exact outcome_conditionals
  · cases h
    exact outcome_doubleNegation.symm
  · cases h

end Formula

/-- A rule that transforms a formula is the rule on that node. -/
theorem Rule.transform?_of_apply {r : Rule} {f g : Formula} (h : r.apply f = .transformed g) :
    r.transform? f = some g := by
  unfold Rule.apply at h
  cases hk : f.kind? with
  | none => simp [hk] at h
  | some k =>
    -- a rule transforms only a nonempty node of a kind it is written for
    by_cases hr : r.accepts k = true <;> by_cases hn : f.isNull = true <;> simp [hk, hr, hn] at h
    cases ht : r.transform? f with
    | none => simp [ht] at h
    | some g' =>
      simp only [ht, Application.transformed.injEq] at h
      rw [h]

/-! ## Contexts -/

/-- A formula with one hole. -/
inductive Context where
  | hole
  | negand (c : Context)
  | left (op : Binary) (c : Context) (b : Formula)
  | right (op : Binary) (a : Formula) (c : Context)
deriving DecidableEq, Repr

namespace Context

/-- The formula obtained by putting `f` in the hole. -/
def plug : Context → Formula → Formula
  | .hole, f => f
  | .negand c, f => .not (c.plug f)
  | .left op c b, f => .bin op (c.plug f) b
  | .right op a c, f => .bin op a (c.plug f)

/-- The outcome of a formula depends on a subformula only through the subformula's outcome. -/
theorem outcome_plug {σ : Valuation} {f g : Formula} (c : Context)
    (h : g.outcome σ = f.outcome σ) : (c.plug g).outcome σ = (c.plug f).outcome σ := by
  induction c with
  | hole => exact h
  | negand c ih => simp only [plug, Formula.outcome_not, ih]
  | left op c b ih => simp only [plug, Formula.outcome_bin, ih]
  | right op a c ih => simp only [plug, Formula.outcome_bin, ih]

end Context

/-- One transformation step: a rule called on one subformula, anywhere in the formula, replaces it
by its transformation. -/
def TransformStep (e e' : Formula) : Prop :=
  ∃ (c : Context) (r : Rule) (f g : Formula),
    r.apply f = .transformed g ∧ e = c.plug f ∧ e' = c.plug g

/-- Transformations keep the outcome of evaluation: a rule called on a node keeps the node's
outcome, and so does every run of transformation steps, each at any position of the formula. -/
theorem transformations_keep_outcome (σ : Valuation) :
    (∀ (r : Rule) (f g : Formula), r.apply f = .transformed g → g.outcome σ = f.outcome σ) ∧
      (∀ e e', Relation.ReflTransGen TransformStep e e' → e'.outcome σ = e.outcome σ) := by
  refine ⟨fun r f g h => Formula.outcome_of_transform? (Rule.transform?_of_apply h), ?_⟩
  intro e e' h
  induction h with
  | refl => rfl
  | tail _ hstep ih =>
    rcases hstep with ⟨c, r, f, g, hfg, rfl, rfl⟩
    exact (c.outcome_plug (Formula.outcome_of_transform? (Rule.transform?_of_apply hfg))).trans ih

end Propositional
