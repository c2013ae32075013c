import Propositional.Proofs.TableRows

/-!
# Crashes come only from empty receivers

A method reads the fields of its receiver, so calling one on an empty formula crashes: it fails
with `Failure.emptyReceiver`. The methods of a node call themselves on the node's operands, each
after a check that the operand is not empty (`Propositional.Proofs.GuardedCalls`). This file
shows that a crash happens only where a method is called directly on an empty formula. Whatever
defects lie below the top of a formula, its text, truth value, operands and YAML value are given
when its top is a leaf or a node; asking for a truth value and writing a YAML document complete on
every formula, empty ones included; a negation answers whether it can lose a double negation, and
the rules complete on every node of their kind, whatever its operands; and truth tables complete
whenever their templates can be built.

Building a term crashes exactly when it reaches a rule applied to an empty node of the rule's
kind (`Term.RuleOnEmpty`). Together, every crash of a query is a method called directly on an
empty formula (`Query.CallsOnEmpty`).

## Main statements

* `Term.build_eq_crash_iff`: building crashes exactly at a rule applied to an empty node.
* `Query.callsOnEmpty_of_answer_eq_crash`: a query crashes only by calling a method on an empty
  formula.
* `crashes_only_at_empty_receivers`.
-/

namespace Propositional

/-! ## Operations on formulas -/

/-- A rule finds an empty receiver only in an empty node of a kind it is written for. -/
theorem Rule.apply_eq_emptyReceiver_iff {r : Rule} {f : Formula} :
    r.apply f = .emptyReceiver ↔ ∃ k, f = .empty k ∧ r.accepts k = true := by
  constructor
  · intro h
    unfold Rule.apply at h
    cases hk : f.kind? with
    | none => simp [hk] at h
    | some k =>
      by_cases hr : r.accepts k = true <;> by_cases hn : f.isNull = true <;>
        simp [hk, hr, hn] at h
      · -- an empty formula with a kind is an empty node of that kind
        cases f <;> simp_all [Formula.isNull, Formula.kind?]
      · cases ht : r.transform? f <;> simp [ht] at h
  · rintro ⟨k, rfl, hr⟩
    simp [Rule.apply, Formula.kind?, hr, Formula.isNull]

namespace Formula

variable {σ : Valuation} {e : Formula}

theorem operands?_of_isNull_eq_false (h : e.isNull = false) : e.operands? = .ok e.operands := by
  cases e <;> simp_all [isNull, operands?]

/-- Asking for a truth value fails only for want of one, never by a crash. -/
theorem isTrue?_eq_error {f : Failure} (h : e.isTrue? σ = .error f) : ∃ m, f = .noTruthValue m := by
  rcases isTrue?_eq_error_iff.1 h with ⟨m, -, rfl⟩
  exact ⟨m, rfl⟩

/-- Writing a YAML document fails only at a defect, never by a crash, even for an empty formula,
whose document is `null`. -/
theorem yaml?_eq_error {f : Failure} (h : e.yaml? σ = .error f) : ∃ d, f = .noTruthValue ⟨[], d⟩ := by
  rw [yaml?_eq_yamlDocument, except_mapError_eq_error_iff] at h
  obtain ⟨d, -, rfl⟩ := h
  exact ⟨d, rfl⟩

theorem isTrue?_ne_crash : e.isTrue? σ ≠ .error .emptyReceiver := by
  intro h
  obtain ⟨m, hm⟩ := isTrue?_eq_error h
  simp at hm

theorem yaml?_ne_crash : e.yaml? σ ≠ .error .emptyReceiver := by
  intro h
  obtain ⟨d, hd⟩ := yaml?_eq_error h
  simp at hd

/-- A negation can lose a double negation exactly when its operand is a negation that is not
empty: the check on the operand keeps an empty negation from being looked into. -/
theorem canDropDoubleNegation?_not (a : Formula) :
    (Formula.not a).canDropDoubleNegation? = .ok (a matches .not _) := by
  cases a with
  | empty k => cases k <;> rfl
  | _ => rfl

/-- Removing a double negation gives the operand of the inner negation, and a negation of anything
else, an empty operand included, is refused with a report that shows the negation. -/
theorem transform?_doubleNegation_not (a : Formula) :
    (Formula.not a).transform? σ .doubleNegation =
      match a with
      | .not b => .ok b
      | _ => .error (.notDoubleNegation ((Formula.not a).render σ)) := by
  cases a with
  | not b => rfl
  | _ => exact transform?_of_apply_eq_refused rfl

/-- A rule called on a node of its kind transforms it, whatever the node's operands. -/
theorem transform?_bin_of_accepts {r : Rule} {op : Binary} (h : r.accepts (.binary op) = true)
    (a b : Formula) :
    ∃ g, r.transform? (.bin op a b) = some g ∧ (Formula.bin op a b).transform? σ r = .ok g := by
  cases r <;> cases op <;> simp_all [Rule.accepts, Rule.transform?, transform?, Rule.apply, kind?,
    isNull]

/-- A rule crashes only on an empty formula: on any other it transforms, refuses or finds the
formula unsuitable. -/
theorem transform?_ne_crash {r : Rule} (h : e.isNull = false) :
    e.transform? σ r ≠ .error .emptyReceiver := by
  intro hcrash
  cases ha : r.apply e with
  | transformed g =>
    rw [transform?, ha] at hcrash
    cases hcrash
  | refused =>
    rw [transform?_of_apply_eq_refused ha] at hcrash
    cases hcrash
  | unsuitable =>
    rw [transform?, ha] at hcrash
    cases hcrash
  | emptyReceiver =>
    rcases Rule.apply_eq_emptyReceiver_iff.1 ha with ⟨k, rfl, -⟩
    simp [isNull] at h

theorem canDropDoubleNegation?_ne_crash (h : e.isNull = false) :
    e.canDropDoubleNegation? ≠ .error .emptyReceiver := by
  unfold canDropDoubleNegation?
  split <;> simp_all [isNull]

end Formula

/-! ## Tables -/

theorem Failure.inTable_eq_crash_iff {e : Failure} {side : Side} :
    e.inTable side = .emptyReceiver ↔ e = .emptyReceiver := by
  cases e <;> simp [Failure.inTable]

/-- A list of steps fails with the failure of one of its steps. -/
theorem mapM_eq_error {α β ε : Type} {f : α → Except ε β} {xs : List α} {e : ε}
    (h : xs.mapM f = .error e) : ∃ x ∈ xs, f x = .error e := by
  induction xs with
  | nil => simp [pure, Except.pure] at h
  | cons x xs ih =>
    rw [List.mapM_cons, except_bind_eq_error_iff] at h
    rcases h with h | ⟨y, -, h⟩
    · exact ⟨x, List.mem_cons_self, h⟩
    rw [except_bind_eq_error_iff] at h
    rcases h with h | ⟨ys, -, h⟩
    · rcases ih h with ⟨x', hx', h'⟩
      exact ⟨x', List.mem_cons_of_mem x hx', h'⟩
    · cases h

namespace TruthTable

variable {σ : Valuation} {as : List Bool}

/-- Evaluating a row does not crash: a crashed row is a template that crashed while built. -/
theorem bind_solveRow_eq_crash {x : Except Failure Formula}
    (h : (x >>= solveRow σ as) = .error .emptyReceiver) : x = .error .emptyReceiver := by
  rcases bind_solveRow_eq_error_iff.1 h with h | ⟨f, m, -, -, h⟩
  · exact h
  · cases h

theorem unary_eq_crash {F : Bool → Except Failure Formula}
    (h : unary σ F = .error .emptyReceiver) : ∃ a, F a = .error .emptyReceiver := by
  rw [unary_eq_mapM] at h
  rcases mapM_eq_error h with ⟨a, -, ha⟩
  exact ⟨a, bind_solveRow_eq_crash (map_eq_error_iff.1 ha)⟩

theorem binary_eq_crash {F : Bool → Bool → Except Failure Formula}
    (h : binary σ F = .error .emptyReceiver) : ∃ a b, F a b = .error .emptyReceiver := by
  rw [binary_eq_mapM] at h
  rcases mapM_eq_error h with ⟨ab, -, hab⟩
  exact ⟨ab.1, ab.2, bind_solveRow_eq_crash (map_eq_error_iff.1 hab)⟩

theorem equivalent_eq_crash {F G : Bool → Bool → Except Failure Formula}
    (h : equivalent σ F G = .error .emptyReceiver) :
    (∃ a b, F a b = .error .emptyReceiver) ∨ ∃ a b, G a b = .error .emptyReceiver := by
  rcases equivalent_eq_error h with ⟨e, he, hcrash⟩ | ⟨e, he, hcrash⟩
  · rw [eq_comm, Failure.inTable_eq_crash_iff] at hcrash
    exact .inl (binary_eq_crash (hcrash ▸ he))
  · rw [eq_comm, Failure.inTable_eq_crash_iff] at hcrash
    exact .inr (binary_eq_crash (hcrash ▸ he))

end TruthTable

/-! ## Building terms -/

theorem except_bind_pure_eq_error {ε α β : Type} {x : Except ε α} {g : α → β} {e : ε}
    (h : (x >>= fun a => pure (g a)) = .error e) : x = .error e := by
  cases x with
  | error e' => simpa using h
  | ok a => cases h

namespace Term

/-- `t.RuleOnEmpty β`: building `t` against `β` reaches a rule applied to an empty node of the
rule's kind. The right operand of a connective is reached only once its left one is built. -/
inductive RuleOnEmpty (β : Bindings) : Term → Prop
  | here {r : Rule} {t : Term} {k : NodeKind} :
      t.build β = .ok (.empty k) → r.accepts k = true → RuleOnEmpty β (.byRule r t)
  | not {t : Term} : RuleOnEmpty β t → RuleOnEmpty β (.not t)
  | left {op : Binary} {s t : Term} : RuleOnEmpty β s → RuleOnEmpty β (.bin op s t)
  | right {op : Binary} {s t : Term} {a : Formula} :
      s.build β = .ok a → RuleOnEmpty β t → RuleOnEmpty β (.bin op s t)
  | byRule {r : Rule} {t : Term} : RuleOnEmpty β t → RuleOnEmpty β (.byRule r t)

theorem applyRule_eq_crash_iff {r : Rule} {f : Formula} :
    applyRule r f = .error .emptyReceiver ↔ ∃ k, f = .empty k ∧ r.accepts k = true := by
  rw [← Rule.apply_eq_emptyReceiver_iff]
  unfold applyRule
  cases r.apply f <;> simp

variable {β : Bindings} {t : Term}

theorem ruleOnEmpty_of_build_eq_crash (h : t.build β = .error .emptyReceiver) :
    t.RuleOnEmpty β := by
  induction t with
  | lit _ | absent | empty _ | dangling | unreadable => simp [build] at h
  | ref x => by_cases hx : β.declared x <;> simp [build, hx] at h
  | param p | stored x =>
    simp only [build] at h
    split at h <;> simp at h
  | not t ih =>
    rw [build_not, except_bind_eq_error_iff] at h
    rcases h with h | ⟨a, -, h⟩
    · exact .not (ih h)
    · cases h
  | bin op s t ihs iht =>
    rw [build_bin, except_bind_eq_error_iff] at h
    rcases h with h | ⟨a, ha, h⟩
    · exact .left (ihs h)
    -- the left operand was built, so the crash is in the right one
    rw [except_bind_eq_error_iff] at h
    rcases h with h | ⟨b, -, h⟩
    · exact .right ha (iht h)
    · cases h
  | byRule r t ih =>
    rw [build_byRule, except_bind_eq_error_iff] at h
    rcases h with h | ⟨f, hf, h⟩
    · exact .byRule (ih h)
    · rcases applyRule_eq_crash_iff.1 h with ⟨k, rfl, hr⟩
      exact .here hf hr

theorem build_eq_crash_of_ruleOnEmpty (h : t.RuleOnEmpty β) :
    t.build β = .error .emptyReceiver := by
  induction h with
  | here ht hr =>
    rw [build_byRule, ht]
    exact applyRule_eq_crash_iff.2 ⟨_, rfl, hr⟩
  | not _ ih => rw [build_not, ih]; rfl
  | left _ ih => rw [build_bin, ih]; rfl
  | right hs _ ih => rw [build_bin, hs, except_ok_bind, ih]; rfl
  | byRule _ ih => rw [build_byRule, ih]; rfl

/-- Building a term crashes exactly when it reaches a rule applied to an empty node of the rule's
kind. -/
theorem build_eq_crash_iff : t.build β = .error .emptyReceiver ↔ t.RuleOnEmpty β :=
  ⟨ruleOnEmpty_of_build_eq_crash, build_eq_crash_of_ruleOnEmpty⟩

end Term

/-! ## Queries -/

namespace Workspace

/-- The bindings under which a template over one placeholder is built for a row. -/
def rowBindings₁ (w : Workspace) (a : Bool) : Bindings :=
  w.bindings fun | .a => some (.lit a) | .b => none

/-- The bindings under which a template over two placeholders is built for a row. -/
def rowBindings₂ (w : Workspace) (a b : Bool) : Bindings :=
  w.bindings fun | .a => some (.lit a) | .b => some (.lit b)

/-- A query that builds a formula and then calls an operation on it crashes while building, or by
calling the operation on an empty formula, when the operation completes on every other. -/
theorem crash_of_build_bind {w : Workspace} {t : Term} {k : Formula → Except Failure Reply}
    (hk : ∀ f, f.isNull = false → k f ≠ .error .emptyReceiver)
    (h : (w.build t >>= k) = .error .emptyReceiver) :
    t.RuleOnEmpty (w.bindings fun _ => none) ∨ ∃ f, w.build t = .ok f ∧ f.isNull = true := by
  rcases except_bind_eq_error_iff.1 h with h | ⟨f, hf, h⟩
  · exact .inl (Term.build_eq_crash_iff.1 h)
  · cases hn : f.isNull
    · exact absurd h (hk f hn)
    · exact .inr ⟨f, hf, hn⟩

end Workspace

/-- A query calls a method directly on an empty formula: while one of its terms is built, a rule
is applied to an empty node of the rule's kind, or the query's own operation is called on an empty
formula. Asking for a truth value and writing a document look into no formula themselves. -/
def Query.CallsOnEmpty (w : Workspace) : Query → Prop
  | .text t | .truthValue t | .operands t | .canDropDoubleNegation t | .byRule _ t =>
    t.RuleOnEmpty (w.bindings fun _ => none) ∨ ∃ f, w.build t = .ok f ∧ f.isNull = true
  | .isTrue t | .yaml t => t.RuleOnEmpty (w.bindings fun _ => none)
  | .unaryTable t => ∃ a, t.RuleOnEmpty (w.rowBindings₁ a)
  | .table t => ∃ a b, t.RuleOnEmpty (w.rowBindings₂ a b)
  | .equivalent s t =>
    ∃ a b, s.RuleOnEmpty (w.rowBindings₂ a b) ∨ t.RuleOnEmpty (w.rowBindings₂ a b)

open Formula TruthTable in
/-- A query crashes only by calling a method directly on an empty formula. -/
theorem Query.callsOnEmpty_of_answer_eq_crash {w : Workspace} {q : Query}
    (h : q.answer w = .error .emptyReceiver) : q.CallsOnEmpty w := by
  cases q with
  | text t =>
    refine w.crash_of_build_bind (fun f hf hcrash => ?_) h
    rw [text?_of_isNull_eq_false hf] at hcrash
    cases hcrash
  | truthValue t =>
    refine w.crash_of_build_bind (fun f hf hcrash => ?_) h
    rw [truthValue?_eq_isTrue? hf] at hcrash
    exact isTrue?_ne_crash (except_bind_pure_eq_error hcrash)
  | operands t =>
    refine w.crash_of_build_bind (fun f hf hcrash => ?_) h
    rw [operands?_of_isNull_eq_false hf] at hcrash
    cases hcrash
  | canDropDoubleNegation t =>
    exact w.crash_of_build_bind
      (fun f hf hcrash => canDropDoubleNegation?_ne_crash hf (except_bind_pure_eq_error hcrash)) h
  | byRule r t =>
    refine w.crash_of_build_bind (fun f hf hcrash => ?_) h
    -- the reply shows the result by its text only when the result is not empty
    rcases except_bind_eq_error_iff.1 hcrash with h' | ⟨g, -, h'⟩
    · exact transform?_ne_crash hf h'
    · rw [Reply.ofTransform_eq] at h'
      cases h'
  | isTrue t =>
    -- asking for a truth value never crashes, so the crash is in the building
    rcases except_bind_eq_error_iff.1 h with h | ⟨f, -, h⟩
    · exact Term.build_eq_crash_iff.1 h
    · exact absurd (except_bind_pure_eq_error h) isTrue?_ne_crash
  | yaml t =>
    rcases except_bind_eq_error_iff.1 h with h | ⟨f, -, h⟩
    · exact Term.build_eq_crash_iff.1 h
    · exact absurd (except_bind_pure_eq_error h) yaml?_ne_crash
  | unaryTable t =>
    rcases unary_eq_crash (except_bind_pure_eq_error h) with ⟨a, ha⟩
    exact ⟨a, Term.build_eq_crash_iff.1 ha⟩
  | table t =>
    rcases binary_eq_crash (except_bind_pure_eq_error h) with ⟨a, b, hab⟩
    exact ⟨a, b, Term.build_eq_crash_iff.1 hab⟩
  | equivalent s t =>
    rcases equivalent_eq_crash (except_bind_pure_eq_error h) with ⟨a, b, hab⟩ | ⟨a, b, hab⟩
    · exact ⟨a, b, .inl (Term.build_eq_crash_iff.1 hab)⟩
    · exact ⟨a, b, .inr (Term.build_eq_crash_iff.1 hab)⟩

open Formula TruthTable in
/-- Nothing crashes because of an empty formula below the top of a formula: a crash is always a
method called directly on an empty formula.

On a formula whose top is a leaf or a node, its text, its own truth value, its operands and its
YAML value are given, whatever defects lie below: no method is called on an empty operand, and the
defects below are reported as `eval` and `toYaml` report them. Asking for a truth value and writing a YAML document fail only
for want of a truth value, on every formula, empty ones included. On a negation, asking whether it
can lose a double negation answers, and removing one gives the inner operand, or refuses with a
report that shows the negation, also when the operand is empty. A rule called on a binary node of
its kind transforms it, whatever its operands. Truth tables and comparisons do not crash when their
templates do not crash while built. Building a term crashes exactly when it reaches a rule applied
to an empty node, and so every crash of a query is a method called directly on an empty formula. -/
theorem crashes_only_at_empty_receivers (σ : Valuation) :
    (∀ e : Formula, e.isNull = false →
      e.text? σ = .ok (e.render σ) ∧ e.truthValue? σ = (e.eval σ).mapError .noTruthValue ∧
        e.operands? = .ok e.operands ∧
        e.marshal? σ = (e.toYaml σ).mapError fun d => .noTruthValue ⟨[], d⟩) ∧
    (∀ e : Formula, (∀ f, e.isTrue? σ = .error f → ∃ m, f = .noTruthValue m) ∧
      ∀ f, e.yaml? σ = .error f → ∃ d, f = .noTruthValue ⟨[], d⟩) ∧
    (∀ a : Formula,
      (Formula.not a).canDropDoubleNegation? = .ok (a matches .not _) ∧
        (Formula.not a).transform? σ .doubleNegation =
          match a with
          | .not b => .ok b
          | _ => .error (.notDoubleNegation ((Formula.not a).render σ))) ∧
    (∀ (r : Rule) (op : Binary) (a b : Formula), r.accepts (.binary op) = true →
      ∃ g, r.transform? (.bin op a b) = some g ∧ (Formula.bin op a b).transform? σ r = .ok g) ∧
    (∀ F : Bool → Except Failure Formula, (∀ a, F a ≠ .error .emptyReceiver) →
      unary σ F ≠ .error .emptyReceiver) ∧
    (∀ F G : Bool → Bool → Except Failure Formula,
      (∀ a b, F a b ≠ .error .emptyReceiver) → (∀ a b, G a b ≠ .error .emptyReceiver) →
        binary σ F ≠ .error .emptyReceiver ∧ equivalent σ F G ≠ .error .emptyReceiver) ∧
    (∀ (β : Bindings) (t : Term), t.build β = .error .emptyReceiver ↔ t.RuleOnEmpty β) ∧
    (∀ (w : Workspace) (q : Query), q.answer w = .error .emptyReceiver → q.CallsOnEmpty w) := by
  refine ⟨fun e he => ⟨text?_of_isNull_eq_false he, truthValue?_of_isNull_eq_false he,
      operands?_of_isNull_eq_false he, marshal?_of_isNull_eq_false he⟩,
    fun e => ⟨fun f => isTrue?_eq_error, fun f => yaml?_eq_error⟩,
    fun a => ⟨canDropDoubleNegation?_not a, transform?_doubleNegation_not a⟩,
    fun r op a b hr => transform?_bin_of_accepts hr a b,
    fun F hF hcrash => ?_, fun F G hF hG => ⟨fun hcrash => ?_, fun hcrash => ?_⟩,
    fun β t => Term.build_eq_crash_iff, fun w q => Query.callsOnEmpty_of_answer_eq_crash⟩
  -- a table crashes only where one of its rows crashed while built
  · obtain ⟨a, ha⟩ := unary_eq_crash hcrash
    exact hF a ha
  · obtain ⟨a, b, hab⟩ := binary_eq_crash hcrash
    exact hF a b hab
  · rcases equivalent_eq_crash hcrash with ⟨a, b, hab⟩ | ⟨a, b, hab⟩
    · exact hF a b hab
    · exact hG a b hab

/-- A disjunction of an empty negation and a negation of the absent formula is not empty itself,
so its methods complete: its text shows both empty formulas, and its truth value and YAML value
report the first defect that evaluation and the writer meet. -/
theorem methods_complete_over_empty_operands :
    let σ : Valuation := fun _ => true
    let e : Formula := .bin .or (.empty .not) (.not .absent)
    e.isNull = false ∧ e.text? σ = .ok "Or(<nil>, Not(<nil>))" ∧
      e.truthValue? σ = (e.eval σ).mapError .noTruthValue ∧ e.operands? = .ok e.operands ∧
      e.marshal? σ = (e.toYaml σ).mapError fun d => .noTruthValue ⟨[], d⟩ := by
  intro σ e
  have hn : e.isNull = false := rfl
  obtain ⟨htext, hvalue, hoperands, hyaml⟩ := (crashes_only_at_empty_receivers σ).1 e hn
  exact ⟨hn, htext, hvalue, hoperands, hyaml⟩

end Propositional
