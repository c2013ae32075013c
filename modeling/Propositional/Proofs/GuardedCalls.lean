import Propositional.Query

/-!
# Guarded calls

Every method of a formula reads its receiver and crashes on an empty one, and the methods of a
node call themselves on the node's operands. A node checks each operand before such a call
(`Formula.guarded`), and this file shows that the checks are enough: on a formula whose top is
not empty, the text, the truth value and the YAML value are those of the total functions
`Formula.render`, `Formula.eval` and `Formula.toYaml`, whatever empty operands lie below. Each
proof is an induction on the formula, whose step is one lemma per call site: the guarded call on
an operand gives what the total function gives of it, an empty operand included.

Asking for the truth value or the YAML document of any formula, an empty one included, checks the
formula before any method is called, and so agrees with `eval` and `yamlDocument` everywhere.

## Main statements

* `Formula.text?_of_isNull_eq_false`, `Formula.truthValue?_of_isNull_eq_false`,
  `Formula.marshal?_of_isNull_eq_false`: the methods on a formula whose top is not empty.
* `Formula.isTrue?_eq_eval`, `Formula.yaml?_eq_yamlDocument`: on every formula.
-/

namespace Propositional

section Except

variable {ε ε' α : Type} {g : ε → ε'} {x : Except ε α}

theorem except_mapError_eq_ok_iff {a : α} : x.mapError g = .ok a ↔ x = .ok a := by
  cases x with
  | ok b =>
    show (Except.ok b : Except ε' α) = .ok a ↔ _
    simp only [Except.ok.injEq]
  | error e =>
    show (Except.error (g e) : Except ε' α) = .ok a ↔ _
    simp

theorem except_mapError_eq_error_iff {e : ε'} :
    x.mapError g = .error e ↔ ∃ e', x = .error e' ∧ e = g e' := by
  cases x with
  | ok b =>
    show (Except.ok b : Except ε' α) = .error e ↔ _
    simp
  | error e' =>
    show (Except.error (g e') : Except ε' α) = .error e ↔ _
    simp [eq_comm]

end Except

namespace Formula

variable {σ : Valuation} {f : Formula}

theorem nullDefect?_eq_none_iff : f.nullDefect? = none ↔ f.isNull = false := by
  cases f <;> simp [nullDefect?, isNull]

theorem guarded_of_isNull_eq_false {α : Type} {onEmpty : Defect → Except Failure α}
    {call : Except Failure α} (h : f.isNull = false) : f.guarded onEmpty call = call := by
  simp [guarded, nullDefect?_eq_none_iff.2 h]

/-- A guarded call on an operand gives `total` when the call does on an operand that is not empty,
and the check does on an empty one. -/
theorem guarded_eq_of {α : Type} {onEmpty : Defect → Except Failure α}
    {call total : Except Failure α} (hcall : f.isNull = false → call = total)
    (hempty : ∀ d, f.nullDefect? = some d → onEmpty d = total) : f.guarded onEmpty call = total := by
  cases hd : f.nullDefect? with
  | some d =>
    rw [guarded, hd]
    exact hempty d hd
  | none =>
    rw [guarded, hd]
    exact hcall (nullDefect?_eq_none_iff.1 hd)

/-! ## Text -/

/-- An operand's part of its node's text is what `render` shows of it: its own text, or `<nil>`
for an empty operand, which is not asked. -/
theorem guarded_text? (a : Formula) (ih : a.isNull = false → a.text? σ = .ok (a.render σ)) :
    a.guarded (fun _ => .ok "<nil>") (a.text? σ) = .ok (a.render σ) :=
  guarded_eq_of ih fun d hd => by cases a <;> cases hd <;> rfl

/-- The text of a formula whose top is not empty is its rendering, whatever lies below. -/
theorem text?_of_isNull_eq_false (h : f.isNull = false) : f.text? σ = .ok (f.render σ) := by
  induction f with
  | not a ih =>
    rw [text?, guarded_text? a ih]
    rfl
  | bin op a b iha ihb =>
    rw [text?, guarded_text? a iha, guarded_text? b ihb]
    rfl
  | absent | empty _ => simp [isNull] at h
  | lit _ | var _ | dangling => rfl

/-- Asked directly of an empty formula, the text crashes. -/
theorem text?_of_isNull (h : f.isNull = true) : f.text? σ = .error .emptyReceiver := by
  cases f with
  | absent | empty _ => rfl
  | _ => simp [isNull] at h

/-! ## Truth values -/

/-- An operand solved as `isTrue?` solves it gives what `eval` gives: its own truth value, or for
an empty operand, which is not asked, the defect it is. -/
theorem guarded_truthValue? (a : Formula)
    (ih : a.isNull = false → a.truthValue? σ = (a.eval σ).mapError .noTruthValue) :
    a.guarded typeMismatch (a.truthValue? σ) = (a.eval σ).mapError .noTruthValue :=
  guarded_eq_of ih fun d hd => by cases a <;> cases hd <;> rfl

/-- The truth value of a formula whose top is not empty is what `eval` gives, whatever lies
below: a defect below the top is reported with its path, and never crashes. -/
theorem truthValue?_of_isNull_eq_false (h : f.isNull = false) :
    f.truthValue? σ = (f.eval σ).mapError .noTruthValue := by
  induction f with
  | not a ih =>
    rw [truthValue?, guarded_truthValue? a ih, eval]
    cases a.eval σ <;> rfl
  | bin op a b iha ihb =>
    rw [truthValue?, guarded_truthValue? a iha, guarded_truthValue? b ihb, eval]
    cases a.eval σ <;> cases b.eval σ <;> rfl
  | absent | empty _ => simp [isNull] at h
  | lit _ | var _ | dangling => rfl

/-- Asking for the truth value of any formula, an empty one included, gives what `eval` gives. -/
theorem isTrue?_eq_eval (f : Formula) : f.isTrue? σ = (f.eval σ).mapError .noTruthValue :=
  guarded_truthValue? f truthValue?_of_isNull_eq_false

/-! ## YAML values -/

/-- The YAML value of a formula whose top is not empty is what `toYaml` gives, whatever lies
below: an empty operand is refused before any operand is asked for its value. -/
theorem marshal?_of_isNull_eq_false (h : f.isNull = false) :
    f.marshal? σ = (f.toYaml σ).mapError fun d => .noTruthValue ⟨[], d⟩ := by
  induction f with
  | not a ih =>
    cases ha : a.nullDefect? with
    | some d =>
      rw [marshal?, toYaml, guarded, ha]
      rfl
    | none =>
      rw [marshal?, toYaml, guarded, ha, ih (nullDefect?_eq_none_iff.1 ha)]
      cases a.toYaml σ <;> rfl
  | bin op a b iha ihb =>
    -- both operands are checked before either is asked for its value
    cases ha : a.nullDefect? with
    | some d =>
      rw [marshal?, toYaml, guarded, ha]
      rfl
    | none =>
      cases hb : b.nullDefect? with
      | some d =>
        rw [marshal?, toYaml, guarded, ha, guarded, hb]
        rfl
      | none =>
        rw [marshal?, toYaml, guarded, ha, guarded, hb, iha (nullDefect?_eq_none_iff.1 ha),
          ihb (nullDefect?_eq_none_iff.1 hb)]
        cases a.toYaml σ <;> cases b.toYaml σ <;> rfl
  | absent | empty _ => simp [isNull] at h
  | lit _ | var _ | dangling => rfl

/-- The YAML document of any formula, an empty one included, is what `yamlDocument` gives. -/
theorem yaml?_eq_yamlDocument (f : Formula) :
    f.yaml? σ = (f.yamlDocument σ).mapError fun d => .noTruthValue ⟨[], d⟩ := by
  -- an empty formula is the document `null` on both sides
  refine guarded_eq_of (fun h => ?_) fun d hd => by cases f <;> cases hd <;> rfl
  rw [marshal?_of_isNull_eq_false h, yamlDocument, if_neg (by simp [h])]
  cases f.toYaml σ <;> rfl

/-! ## Transformations -/

theorem isNull_of_apply_eq_refused {r : Rule} (h : r.apply f = .refused) : f.isNull = false := by
  cases hn : f.isNull
  · rfl
  · -- a rule crashes on an empty formula of its kind, and finds one of another kind unsuitable
    unfold Rule.apply at h
    simp only [hn, ↓reduceIte] at h
    split at h
    · cases h
    · split at h <;> cases h

/-- A refused transformation shows the formula by its text, which it has: the formula is a
negation. -/
theorem transform?_of_apply_eq_refused {r : Rule} (h : r.apply f = .refused) :
    f.transform? σ r = .error (.notDoubleNegation (f.render σ)) := by
  rw [transform?, h, text?_of_isNull_eq_false (isNull_of_apply_eq_refused h)]
  rfl

end Formula

/-- The reply to a transformation shows the result by its text, unless the result is empty. -/
theorem Reply.ofTransform_eq (σ : Valuation) (g : Formula) :
    Reply.ofTransform σ g = .ok (.transformed g (if g.isNull then none else some (g.render σ))) := by
  cases h : g.isNull
  · simp only [Reply.ofTransform, h, Formula.text?_of_isNull_eq_false h]
    rfl
  · simp only [Reply.ofTransform, h]
    rfl

/-- A row's truth value is what `eval` gives of its formula, a missing one reported with the
row's assignment. -/
theorem TruthTable.solveRow_eq (σ : Valuation) (as : List Bool) (f : Formula) :
    solveRow σ as f = match f.eval σ with
      | .ok v => .ok v
      | .error m => .error (.row ⟨as, m⟩) := by
  rw [solveRow, Formula.isTrue?_eq_eval]
  cases f.eval σ <;> rfl

end Propositional
