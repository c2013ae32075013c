import Mathlib
import Propositional.Proofs.Evaluation

/-!
# Equivalence of templates

`TruthTable.equivalent` compares two families of formulas on the four assignments of literal
truth values to two placeholders. This file says what the comparison decides, and what a positive
answer is worth beyond those four rows.

The comparison fails exactly when a row of one of the two tables fails, and the first table's
failure comes first. Otherwise it answers whether the two families have the same truth value on
every row (`equivalent_eq_ok_iff`).

For templates, a positive answer holds for every instantiation by sound formulas, not only by
literals (`eval_instantiateWith_of_equivalent`). The argument is a substitution lemma: a template
built on sound formulas is the template built on their truth values with some literal leaves
replaced by formulas of the same value (`LeafReplacement`), and such a replacement keeps the truth
value. Rules inspect the kind of the node they are applied to, so a rule applied to a placeholder
behaves differently on a literal and on a formula; but then the literal rows do not have a truth
value at all, and the comparison fails.
-/

namespace Propositional

/-! ## Results of lists of steps -/

section ExceptList

variable {ε α β γ : Type}

@[simp] theorem except_ok_bind {a : α} {f : α → Except ε β} : (Except.ok a >>= f) = f a := rfl

@[simp] theorem except_error_bind {e : ε} {f : α → Except ε β} :
    (Except.error e >>= f) = .error e := rfl

theorem except_bind_eq_ok_iff {x : Except ε α} {f : α → Except ε β} {b : β} :
    (x >>= f) = .ok b ↔ ∃ a, x = .ok a ∧ f a = .ok b := by
  cases x <;> simp

theorem except_error_iff_not_ok {x : Except ε α} : (∃ e, x = .error e) ↔ ¬ ∃ a, x = .ok a := by
  cases x <;> simp

/-- A list of steps succeeds with the list of the steps' results, each in its place. -/
theorem mapM_eq_ok_iff {f : α → Except ε β} {xs : List α} {ys : List β} :
    xs.mapM f = .ok ys ↔ List.Forall₂ (fun x y => f x = .ok y) xs ys := by
  induction xs generalizing ys with
  | nil => cases ys <;> simp [pure, Except.pure]
  | cons x xs ih =>
    simp only [List.mapM_cons, except_bind_eq_ok_iff, ih]
    cases ys with
    | nil => simp [pure, Except.pure]
    | cons y ys => simp [pure, Except.pure]

theorem exists_mapM_eq_ok_iff {f : α → Except ε β} {xs : List α} :
    (∃ ys, xs.mapM f = .ok ys) ↔ ∀ x ∈ xs, ∃ y, f x = .ok y := by
  simp only [mapM_eq_ok_iff]
  induction xs with
  | nil => simp
  | cons x xs ih =>
    constructor
    · rintro ⟨_ | ⟨y, ys⟩, h⟩
      · cases h
      · rcases List.forall₂_cons.1 h with ⟨hx, hxs⟩
        intro z hz
        rcases List.mem_cons.1 hz with rfl | hz
        · exact ⟨y, hx⟩
        · exact ih.1 ⟨ys, hxs⟩ z hz
    · intro h
      rcases h x List.mem_cons_self with ⟨y, hy⟩
      rcases ih.2 fun z hz => h z (List.mem_cons_of_mem x hz) with ⟨ys, hys⟩
      exact ⟨y :: ys, .cons hy hys⟩

/-- Two lists of results of steps over the same list agree exactly when the steps agree. -/
theorem forall₂_ok_eq_iff {f g : α → Except ε β} {xs : List α} {ys zs : List β}
    (hy : List.Forall₂ (fun x y => f x = .ok y) xs ys)
    (hz : List.Forall₂ (fun x z => g x = .ok z) xs zs) :
    ys = zs ↔ ∀ x ∈ xs, f x = g x := by
  induction hy generalizing zs with
  | nil =>
    cases hz
    simp
  | @cons x y xs ys hxy _ ih =>
    cases hz with
    | @cons _ z _ zs hxz hzs =>
      rw [List.cons.injEq, ih hzs, List.forall_mem_cons, hxy, hxz, Except.ok.injEq]

end ExceptList

/-! ## What a comparison decides -/

namespace TruthTable

variable {σ : Valuation} {F G : Bool → Bool → Except Failure Formula} {rows : List Row}

/-- The truth value in the row of an assignment, or why the row fails. -/
def valueAt (σ : Valuation) (family : Bool → Bool → Except Failure Formula) (a b : Bool) :
    Except Failure Bool :=
  family a b >>= solveRow σ [a, b]

theorem mem_binaryAssignments (a b : Bool) : (a, b) ∈ binaryAssignments := by
  cases a <;> cases b <;> decide

theorem binary_eq_mapM :
    binary σ F = binaryAssignments.mapM fun ab =>
      (fun v => (⟨ab.1, ab.2, v⟩ : Row)) <$> valueAt σ F ab.1 ab.2 := by
  unfold binary
  congr
  funext ⟨a, b⟩
  -- a row is built in two steps, the formula and then its value
  show (do let f ← F a b; let v ← solveRow σ [a, b] f; pure (⟨a, b, v⟩ : Row)) =
    (fun v => (⟨a, b, v⟩ : Row)) <$> (F a b >>= solveRow σ [a, b])
  cases F a b with
  | error e => rfl
  | ok f => cases solveRow σ [a, b] f <;> rfl

theorem exists_binary_eq_ok_iff :
    (∃ rows, binary σ F = .ok rows) ↔ ∀ a b, ∃ v, valueAt σ F a b = .ok v := by
  rw [binary_eq_mapM, exists_mapM_eq_ok_iff]
  constructor
  · intro h a b
    rcases h (a, b) (mem_binaryAssignments a b) with ⟨r, hr⟩
    cases hv : valueAt σ F a b with
    | error e => simp [hv, Functor.map, Except.map] at hr
    | ok v => exact ⟨v, rfl⟩
  · rintro h ⟨a, b⟩ -
    rcases h a b with ⟨v, hv⟩
    exact ⟨⟨a, b, v⟩, by simp [hv, Functor.map, Except.map]⟩

/-- The value column of a table holds the value of each row, in the order of the assignments. -/
theorem forall₂_values_of_binary_eq_ok (h : binary σ F = .ok rows) :
    List.Forall₂ (fun ab v => valueAt σ F ab.1 ab.2 = .ok v) binaryAssignments
      (rows.map Row.value) := by
  rw [binary_eq_mapM, mapM_eq_ok_iff] at h
  rw [List.forall₂_map_right_iff]
  refine h.imp fun ab r hr => ?_
  cases hv : valueAt σ F ab.1 ab.2 with
  | error e => simp [hv, Functor.map, Except.map] at hr
  | ok v =>
    simp only [hv, Functor.map, Except.map, Except.ok.injEq] at hr
    rw [← hr]

theorem equivalent_of_binary_eq_error {e : Failure} (h : binary σ F = .error e) :
    equivalent σ F G = .error (e.inTable .first) := by
  simp [equivalent, h, Except.mapError]

theorem equivalent_of_binary_eq_ok_of_eq_error {e : Failure} (h₁ : binary σ F = .ok rows)
    (h₂ : binary σ G = .error e) : equivalent σ F G = .error (e.inTable .second) := by
  simp [equivalent, h₁, h₂, Except.mapError]

theorem equivalent_of_binary_eq_ok {rows' : List Row} (h₁ : binary σ F = .ok rows)
    (h₂ : binary σ G = .ok rows') :
    equivalent σ F G = .ok (rows.map Row.value == rows'.map Row.value) := by
  simp [equivalent, h₁, h₂, Except.mapError, pure, Except.pure]

/-- Two tables without failed rows have the same value column exactly when the two families have
the same truth value on every assignment. -/
theorem values_eq_iff {rows' : List Row} (h₁ : binary σ F = .ok rows)
    (h₂ : binary σ G = .ok rows') :
    rows.map Row.value = rows'.map Row.value ↔ ∀ a b, valueAt σ F a b = valueAt σ G a b := by
  rw [forall₂_ok_eq_iff (forall₂_values_of_binary_eq_ok h₁) (forall₂_values_of_binary_eq_ok h₂)]
  constructor
  · intro h a b
    exact h (a, b) (mem_binaryAssignments a b)
  · rintro h ⟨a, b⟩ -
    exact h a b

/-- A comparison answers exactly when no row of either table fails, and it answers whether the
two families have the same truth value on every row. -/
theorem equivalent_eq_ok_iff {c : Bool} :
    equivalent σ F G = .ok c ↔
      (∀ a b, (∃ v, valueAt σ F a b = .ok v) ∧ ∃ v, valueAt σ G a b = .ok v) ∧
        (c = true ↔ ∀ a b, valueAt σ F a b = valueAt σ G a b) := by
  constructor
  · intro h
    cases h₁ : binary σ F with
    | error e => simp [equivalent_of_binary_eq_error h₁] at h
    | ok rows =>
      cases h₂ : binary σ G with
      | error e => simp [equivalent_of_binary_eq_ok_of_eq_error h₁ h₂] at h
      | ok rows' =>
        rw [equivalent_of_binary_eq_ok h₁ h₂, Except.ok.injEq] at h
        subst h
        have hF := exists_binary_eq_ok_iff.1 ⟨rows, h₁⟩
        have hG := exists_binary_eq_ok_iff.1 ⟨rows', h₂⟩
        exact ⟨fun a b => ⟨hF a b, hG a b⟩, by rw [beq_iff_eq, values_eq_iff h₁ h₂]⟩
  · rintro ⟨hrows, hc⟩
    rcases exists_binary_eq_ok_iff.2 fun a b => (hrows a b).1 with ⟨rows, h₁⟩
    rcases exists_binary_eq_ok_iff.2 fun a b => (hrows a b).2 with ⟨rows', h₂⟩
    rw [equivalent_of_binary_eq_ok h₁ h₂, Except.ok.injEq, Bool.eq_iff_iff, beq_iff_eq,
      values_eq_iff h₁ h₂]
    exact hc.symm

theorem exists_equivalent_eq_ok_iff :
    (∃ c, equivalent σ F G = .ok c) ↔
      ∀ a b, (∃ v, valueAt σ F a b = .ok v) ∧ ∃ v, valueAt σ G a b = .ok v := by
  constructor
  · rintro ⟨c, h⟩
    exact (equivalent_eq_ok_iff.1 h).1
  · intro h
    rcases exists_binary_eq_ok_iff.2 fun a b => (h a b).1 with ⟨rows, h₁⟩
    rcases exists_binary_eq_ok_iff.2 fun a b => (h a b).2 with ⟨rows', h₂⟩
    exact ⟨_, equivalent_of_binary_eq_ok h₁ h₂⟩

/-- A comparison fails exactly when a row of one of the two tables fails. -/
theorem exists_equivalent_eq_error_iff :
    (∃ e, equivalent σ F G = .error e) ↔
      ∃ a b, (∃ e, valueAt σ F a b = .error e) ∨ ∃ e, valueAt σ G a b = .error e := by
  simp only [except_error_iff_not_ok, exists_equivalent_eq_ok_iff, not_forall, not_and_or]

end TruthTable

/-! ## Replacing literal leaves -/

namespace Formula

variable {σ : Valuation}

/-- `e.LeafReplacement σ e'`: `e'` is `e` with some literal leaves replaced by sound formulas of
the same truth value under `σ`, and some absent positions filled by any formula. -/
inductive LeafReplacement (σ : Valuation) : Formula → Formula → Prop where
  | refl (e : Formula) : LeafReplacement σ e e
  | lit {x : Formula} : x.Sound → LeafReplacement σ (.lit (x.denote σ)) x
  | absent (x : Formula) : LeafReplacement σ .absent x
  | not {a a' : Formula} : LeafReplacement σ a a' → LeafReplacement σ (.not a) (.not a')
  | bin (op : Binary) {a a' b b' : Formula} : LeafReplacement σ a a' → LeafReplacement σ b b' →
      LeafReplacement σ (.bin op a b) (.bin op a' b')

/-- What removing a double negation leaves of the operand of the outer negation: the operand of
the inner one, or no formula at all when the operand is no negation. -/
def dropNegation : Formula → Formula
  | .not c => c
  | _ => .absent

namespace LeafReplacement

variable {e e' a a' b b' : Formula}

/-- A replacement of a sound formula is sound and has the same meaning. -/
theorem sound (h : e.LeafReplacement σ e') (he : e.Sound) :
    e'.Sound ∧ e'.denote σ = e.denote σ := by
  induction h with
  | refl => exact ⟨he, rfl⟩
  | lit hx => exact ⟨hx, rfl⟩
  | absent x => exact absurd he (not_sound_of_defect (d := .absent) rfl)
  | not _ ih =>
    rcases ih (sound_not.1 he) with ⟨ha', hd⟩
    exact ⟨sound_not.2 ha', by simp [denote, hd]⟩
  | bin op _ _ iha ihb =>
    rcases sound_bin.1 he with ⟨ha, hb⟩
    rcases iha ha with ⟨ha', hda⟩
    rcases ihb hb with ⟨hb', hdb⟩
    exact ⟨sound_bin.2 ⟨ha', hb'⟩, by simp [denote, hda, hdb]⟩

/-- A replacement keeps every truth value. -/
theorem eval_eq {v : Bool} (h : e.LeafReplacement σ e') (he : e.eval σ = .ok v) :
    e'.eval σ = .ok v := by
  rcases eval_eq_ok_iff.1 he with ⟨hs, rfl⟩
  rcases h.sound hs with ⟨hs', hd⟩
  exact eval_eq_ok_iff.2 ⟨hs', hd.symm⟩

theorem dropNegation (h : a.LeafReplacement σ a') :
    a.dropNegation.LeafReplacement σ a'.dropNegation := by
  cases h with
  | refl => exact .refl _
  | not h => exact h
  | _ => exact .absent _

/-- The four rules on binary nodes rebuild the same shape over the operands they are given. -/
theorem transform?_bin (r : Rule) (op : Binary) (ha : a.LeafReplacement σ a')
    (hb : b.LeafReplacement σ b') :
    ((r.transform? (.bin op a b)).getD .absent).LeafReplacement σ
      ((r.transform? (.bin op a' b')).getD .absent) := by
  cases r <;> cases op
  case deMorgan.and => exact .not (.bin _ (.not ha) (.not hb))
  case deMorgan.or => exact .not (.bin _ (.not ha) (.not hb))
  case disjunction.conditional => exact .bin _ (.not ha) hb
  case conditionals.biconditional => exact .bin _ (.bin _ ha hb) (.bin _ hb ha)
  all_goals exact .refl _

end LeafReplacement

end Formula

/-- A rule application in a term builds a formula exactly when the rule is written for the kind
of node it is given and that node is not empty; a refused double negation builds no formula. -/
theorem Term.applyRule_eq_ok_iff {r : Rule} {f g : Formula} :
    Term.applyRule r f = .ok g ↔
      ∃ k, f.kind? = some k ∧ r.accepts k = true ∧ f.isNull = false ∧
        (r.transform? f).getD .absent = g := by
  unfold Term.applyRule Rule.apply
  cases f.kind? with
  | none => simp
  | some k =>
    by_cases hr : r.accepts k = true <;> by_cases hn : f.isNull = true <;> simp [hr, hn]
    cases r.transform? f <;> simp

namespace Formula.LeafReplacement

variable {σ : Valuation} {f f' g : Formula} {r : Rule}

/-- A rule that applies to a formula applies to every replacement of it, and the results are
again a replacement. A literal leaf has no kind, so a rule never applies to one, and the
replacement of a literal by a formula of any kind is never seen by a rule. -/
theorem applyRule (h : f.LeafReplacement σ f') (hg : Term.applyRule r f = .ok g) :
    ∃ g', Term.applyRule r f' = .ok g' ∧ g.LeafReplacement σ g' := by
  rcases Term.applyRule_eq_ok_iff.1 hg with ⟨k, hk, hr, hn, rfl⟩
  cases h with
  | refl => exact ⟨_, hg, .refl _⟩
  | lit => simp [kind?] at hk
  | absent => simp [kind?] at hk
  | @not a a' ha =>
    -- only the double-negation rule is written for negations
    simp only [kind?, Option.some.injEq] at hk
    subst hk
    cases r <;> simp [Rule.accepts] at hr
    refine ⟨a'.dropNegation, Term.applyRule_eq_ok_iff.2 ⟨.not, rfl, rfl, rfl, ?_⟩, ?_⟩
    · cases a' <;> rfl
    · have hd : ((Rule.doubleNegation.transform? (.not a)).getD .absent) = a.dropNegation := by
        cases a <;> rfl
      rw [hd]
      exact ha.dropNegation
  | @bin op a a' b b' ha hb =>
    simp only [kind?, Option.some.injEq] at hk
    subst hk
    exact ⟨_, Term.applyRule_eq_ok_iff.2 ⟨_, rfl, hr, rfl, rfl⟩, transform?_bin r op ha hb⟩

end Formula.LeafReplacement

/-! ## Building templates on formulas -/

/-- `β.ReplacesParams σ β'`: `β'` knows the same variables and stored formulas as `β`, and binds
each placeholder to a replacement of the formula `β` binds it to. -/
structure Bindings.ReplacesParams (σ : Valuation) (β β' : Bindings) : Prop where
  declared : β'.declared = β.declared
  stored : β'.stored = β.stored
  param : ∀ p f, β.param p = some f → ∃ f', β'.param p = some f' ∧ f.LeafReplacement σ f'

/-- Substitution for templates: building a term against bindings whose placeholders stand for
replacements gives a replacement of the formula built before. The induction follows `Term.build`;
only a placeholder introduces a replacement, and `LeafReplacement.applyRule` carries it through
the rules. -/
theorem Term.build_of_replacesParams {σ : Valuation} {β β' : Bindings}
    (hβ : β.ReplacesParams σ β') {t : Term} {F : Formula} (h : t.build β = .ok F) :
    ∃ F', t.build β' = .ok F' ∧ F.LeafReplacement σ F' := by
  induction t generalizing F with
  -- the leaves other than placeholders build the same formula against either bindings
  | lit _ | absent | empty _ | dangling => exact ⟨F, h, .refl F⟩
  | ref x =>
    simp only [build, hβ.declared] at h ⊢
    exact ⟨F, h, .refl F⟩
  | stored x =>
    simp only [build, hβ.stored] at h ⊢
    exact ⟨F, h, .refl F⟩
  | param p =>
    -- the only place where a replacement enters
    cases hp : β.param p with
    | none => simp [build, hp] at h
    | some f =>
      simp only [build, hp, Except.ok.injEq] at h
      subst h
      rcases hβ.param p f hp with ⟨f', hp', hf⟩
      exact ⟨f', by simp [build, hp'], hf⟩
  | not t ih =>
    cases ht : t.build β with
    | error e => simp [build, ht] at h
    | ok a =>
      simp only [build, ht, Except.ok.injEq] at h
      subst h
      rcases ih ht with ⟨a', ha', ha⟩
      exact ⟨.not a', by simp [build, ha'], .not ha⟩
  | bin op s t ihs iht =>
    cases hs : s.build β with
    | error e => simp [build, hs] at h
    | ok a =>
      cases ht : t.build β with
      | error e => simp [build, hs, ht] at h
      | ok b =>
        simp only [build, hs, ht, Except.ok.injEq] at h
        subst h
        rcases ihs hs with ⟨a', ha', ha⟩
        rcases iht ht with ⟨b', hb', hb⟩
        exact ⟨.bin op a' b', by simp [build, ha', hb'], .bin op ha hb⟩
  | byRule r t ih =>
    cases ht : t.build β with
    | error e => simp [build, ht] at h
    | ok f =>
      simp only [build, ht] at h
      rcases ih ht with ⟨f', hf', hf⟩
      rcases hf.applyRule h with ⟨g', hg', hg⟩
      exact ⟨g', by simp [build, hf', hg'], hg⟩
  | unreadable => simp [build] at h

/-- The two placeholders standing for the given formulas. -/
def Param.binding (x y : Formula) : Param → Option Formula
  | .a => some x
  | .b => some y

namespace Workspace

/-- Builds a template over two placeholders, which stand for the given formulas. -/
def instantiateWith (w : Workspace) (t : Term) (x y : Formula) : Except Failure Formula :=
  t.build (w.bindings (Param.binding x y))

/-- A template built on two sound formulas has the truth value of its row for their values. -/
theorem eval_instantiateWith {w : Workspace} {t : Term} {x y : Formula} {v : Bool}
    (hx : x.Sound) (hy : y.Sound)
    (hv : TruthTable.valueAt w.valuation (w.instantiate₂ t) (x.denote w.valuation)
      (y.denote w.valuation) = .ok v) :
    ∃ F, w.instantiateWith t x y = .ok F ∧ F.eval w.valuation = .ok v := by
  rcases except_bind_eq_ok_iff.1 hv with ⟨F, hF, hFv⟩
  have hFeval : F.eval w.valuation = .ok v := by
    cases he : F.eval w.valuation <;> simp_all [TruthTable.solveRow_eq]
  have hβ : (w.bindings (Param.binding (.lit (x.denote w.valuation))
      (.lit (y.denote w.valuation)))).ReplacesParams w.valuation
        (w.bindings (Param.binding x y)) := by
    refine ⟨rfl, rfl, ?_⟩
    rintro (_ | _) f hf <;> cases hf
    · exact ⟨x, rfl, .lit hx⟩
    · exact ⟨y, rfl, .lit hy⟩
  rcases Term.build_of_replacesParams hβ hF with ⟨F', hF', hFF'⟩
  exact ⟨F', hF', hFF'.eval_eq hFeval⟩

end Workspace

open TruthTable in
/-- Comparing two templates decides whether they have the same truth value on the four literal
assignments, and a positive answer carries over to every instantiation by sound formulas.

The comparison fails exactly when a row of one of the two tables fails, and a failure of the
first table is reported, as the first table's, before the second table is looked at. Otherwise
it answers whether the two templates agree on every row. When it answers `true`, the two
templates built on any two sound formulas both have the truth value of their common row for the
formulas' values. -/
theorem equivalent_decides_truth_function (w : Workspace) (f g : Term) :
    ((∃ e, equivalent w.valuation (w.instantiate₂ f) (w.instantiate₂ g) = .error e) ↔
      ∃ a b, (∃ e, valueAt w.valuation (w.instantiate₂ f) a b = .error e) ∨
        ∃ e, valueAt w.valuation (w.instantiate₂ g) a b = .error e) ∧
    (∀ e, binary w.valuation (w.instantiate₂ f) = .error e →
      equivalent w.valuation (w.instantiate₂ f) (w.instantiate₂ g) = .error (e.inTable .first)) ∧
    (∀ rows e, binary w.valuation (w.instantiate₂ f) = .ok rows →
      binary w.valuation (w.instantiate₂ g) = .error e →
      equivalent w.valuation (w.instantiate₂ f) (w.instantiate₂ g) = .error (e.inTable .second)) ∧
    (∀ c, equivalent w.valuation (w.instantiate₂ f) (w.instantiate₂ g) = .ok c ↔
      (∀ a b, (∃ v, valueAt w.valuation (w.instantiate₂ f) a b = .ok v) ∧
        ∃ v, valueAt w.valuation (w.instantiate₂ g) a b = .ok v) ∧
      (c = true ↔
        ∀ a b, valueAt w.valuation (w.instantiate₂ f) a b =
          valueAt w.valuation (w.instantiate₂ g) a b)) ∧
    (equivalent w.valuation (w.instantiate₂ f) (w.instantiate₂ g) = .ok true →
      ∀ x y : Formula, x.Sound → y.Sound →
        ∃ v F G, valueAt w.valuation (w.instantiate₂ f) (x.denote w.valuation)
            (y.denote w.valuation) = .ok v ∧
          w.instantiateWith f x y = .ok F ∧ w.instantiateWith g x y = .ok G ∧
          F.isTrue? w.valuation = .ok v ∧ G.isTrue? w.valuation = .ok v) := by
  refine ⟨exists_equivalent_eq_error_iff, fun e => equivalent_of_binary_eq_error,
    fun rows e => equivalent_of_binary_eq_ok_of_eq_error, fun c => equivalent_eq_ok_iff, ?_⟩
  intro h x y hx hy
  rcases equivalent_eq_ok_iff.1 h with ⟨hrows, hagree⟩
  -- the row of the formulas' values has a truth value, and the same one in both tables
  rcases (hrows (x.denote w.valuation) (y.denote w.valuation)).1 with ⟨v, hf⟩
  have hg : valueAt w.valuation (w.instantiate₂ g) (x.denote w.valuation)
      (y.denote w.valuation) = .ok v := by
    rw [← hagree.1 rfl]
    exact hf
  rcases Workspace.eval_instantiateWith hx hy hf with ⟨F, hF, hFv⟩
  rcases Workspace.eval_instantiateWith hx hy hg with ⟨G, hG, hGv⟩
  exact ⟨v, F, G, hf, hF, hG, Formula.isTrue?_eq_ok_iff.2 hFv, Formula.isTrue?_eq_ok_iff.2 hGv⟩

open TruthTable in
/-- De Morgan's law for a disjunction of the two placeholders agrees with the disjunction itself,
and so it does on the sound formulas `Not(False)` and `And(True, False)`. -/
theorem deMorgan_template_agrees_on_sound_formulas :
    let w := Workspace.ofStore .empty
    let f : Term := .byRule .deMorgan (.bin .or (.param .a) (.param .b))
    let g : Term := .bin .or (.param .a) (.param .b)
    let x : Formula := .not (.lit false)
    let y : Formula := .bin .and (.lit true) (.lit false)
    equivalent w.valuation (w.instantiate₂ f) (w.instantiate₂ g) = .ok true ∧ x.Sound ∧ y.Sound ∧
      ∃ v F G, valueAt w.valuation (w.instantiate₂ f) (x.denote w.valuation)
          (y.denote w.valuation) = .ok v ∧
        w.instantiateWith f x y = .ok F ∧ w.instantiateWith g x y = .ok G ∧
        F.isTrue? w.valuation = .ok v ∧ G.isTrue? w.valuation = .ok v := by
  intro w f g x y
  have hsame : equivalent w.valuation (w.instantiate₂ f) (w.instantiate₂ g) = .ok true := rfl
  have hx : x.Sound := by decide
  have hy : y.Sound := by decide
  exact ⟨hsame, hx, hy, (equivalent_decides_truth_function w f g).2.2.2.2 hsame x y hx hy⟩

/- A rule that looks at the kind of a placeholder's formula needs no side condition: on literal
rows it fails, and so does the comparison. -/
example : (TruthTable.equivalent (Workspace.ofStore .empty).valuation
    ((Workspace.ofStore .empty).instantiate₂ (.byRule .doubleNegation (.not (.param .a))))
    ((Workspace.ofStore .empty).instantiate₂ (.param .a))).toOption = none := by
  decide

end Propositional
