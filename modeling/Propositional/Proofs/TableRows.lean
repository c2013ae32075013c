import Propositional.Proofs.Equivalence

/-!
# Truth tables fail only at their first row

A truth table builds its template once for each row, on the row's literal truth values, and
evaluates what it built. This file shows that a table can only fail at its first row,
`(True, True)` or `(True)`. The formulas built for different rows differ only in the values of some
literal leaves: a rule looks at the kind of the node it is given, never at a truth value. And
whether and where evaluation fails does not depend on the values of literals, since evaluation
never short-circuits. So a row fails exactly when the first one does.

## Main definitions

* `Formula.LitVariant`: two formulas that differ only in the values of literal leaves.
* `BuildsAlike`: two builds that fail alike, or give formulas that differ only in literals.

## Main statements

* `Formula.LitVariant.eval_eq_error_iff`: formulas that differ only in literals fail evaluation
  alike.
* `Term.build_alike`: a term built on placeholders that stand for different literals builds alike.
* `TruthTable.binary_eq_error_iff_first`: the table of a template fails exactly with the failure
  of its first row.
* `truth_tables_fail_only_at_first_row`.
-/

namespace Propositional

/-! ## Formulas that differ only in their literals -/

namespace Formula

/-- `f.LitVariant g`: `g` is `f` with the values of some literal leaves changed. -/
inductive LitVariant : Formula → Formula → Prop
  | refl (f : Formula) : LitVariant f f
  | lit (v w : Bool) : LitVariant (.lit v) (.lit w)
  | not {a a' : Formula} : LitVariant a a' → LitVariant (.not a) (.not a')
  | bin (op : Binary) {a a' b b' : Formula} : LitVariant a a' → LitVariant b b' →
      LitVariant (.bin op a b) (.bin op a' b')

namespace LitVariant

variable {f g : Formula} {p : List Frame} {d : Defect}

theorem symm (h : f.LitVariant g) : g.LitVariant f := by
  induction h with
  | refl f => exact .refl f
  | lit v w => exact .lit w v
  | not _ ih => exact .not ih
  | bin op _ _ iha ihb => exact .bin op iha ihb

/-- A literal holds no defect, so changing literals moves no defect. -/
theorem defectAt (h : f.LitVariant g) (hd : f.DefectAt p d) : g.DefectAt p d := by
  induction h generalizing p with
  | refl => exact hd
  | lit v w =>
    cases hd with
    | here hv => simp [defect?] at hv
  | not _ ih =>
    rcases defectAt_not_iff.1 hd with ⟨q, rfl, hq⟩
    exact .negand (ih hq)
  | bin op _ _ iha ihb =>
    rcases defectAt_bin_iff.1 hd with ⟨q, rfl, hq⟩ | ⟨q, rfl, hq⟩
    · exact .left (iha hq)
    · exact .right (ihb hq)

theorem leftmostDefect (h : f.LitVariant g) {m : Mismatch} (hm : f.LeftmostDefect m) :
    g.LeftmostDefect m where
  defectAt := h.defectAt hm.defectAt
  leftmost q d hq := hm.leftmost q d (h.symm.defectAt hq)

/-- Formulas that differ only in literals fail evaluation alike: evaluation never short-circuits,
so where it fails depends on the positions of the defects and on no truth value. -/
theorem eval_eq_error_iff (h : f.LitVariant g) {σ : Valuation} {m : Mismatch} :
    f.eval σ = .error m ↔ g.eval σ = .error m := by
  rw [Formula.eval_eq_error_iff, Formula.eval_eq_error_iff]
  exact ⟨h.leftmostDefect, h.symm.leftmostDefect⟩

theorem kind?_eq (h : f.LitVariant g) : f.kind? = g.kind? := by
  cases h <;> rfl

theorem isNull_eq (h : f.LitVariant g) : f.isNull = g.isNull := by
  cases h <;> rfl

theorem rel_refl : ∀ x : Option Formula, Option.Rel LitVariant x x
  | none => .none
  | some f => .some (.refl f)

/-- A rule looks at the kinds of a node and of its operands, never at the value of a literal, and
rebuilds the same shape over the operands it was given. -/
theorem transform? (h : f.LitVariant g) (r : Rule) :
    Option.Rel LitVariant (r.transform? f) (r.transform? g) := by
  cases h with
  | refl f => exact rel_refl _
  | lit v w => cases r <;> exact .none
  | @not a a' ha =>
    -- only the double-negation rule is written for negations, and it looks one level down
    cases r
    case doubleNegation =>
      cases ha with
      | refl a => exact rel_refl _
      | lit v w => exact .none
      | not hc => exact .some hc
      | bin op _ _ => exact .none
    all_goals exact .none
  | bin op ha hb =>
    cases r <;> cases op
    case deMorgan.and => exact .some (.not (.bin _ (.not ha) (.not hb)))
    case deMorgan.or => exact .some (.not (.bin _ (.not ha) (.not hb)))
    case disjunction.conditional => exact .some (.bin _ (.not ha) hb)
    case conditionals.biconditional => exact .some (.bin _ (.bin _ ha hb) (.bin _ hb ha))
    all_goals exact .none

end LitVariant

end Formula

/-! ## Builds that differ only in their literals -/

theorem except_bind_eq_error_iff {ε α β : Type} {x : Except ε α} {k : α → Except ε β} {e : ε} :
    (x >>= k) = .error e ↔ x = .error e ∨ ∃ a, x = .ok a ∧ k a = .error e := by
  cases x <;> simp

/-- Two builds are alike when they fail with the same failure, or both give formulas that differ
only in the values of literal leaves. -/
inductive BuildsAlike : Except Failure Formula → Except Failure Formula → Prop
  | error (e : Failure) : BuildsAlike (.error e) (.error e)
  | ok {f g : Formula} : f.LitVariant g → BuildsAlike (.ok f) (.ok g)

namespace BuildsAlike

theorem refl : ∀ x : Except Failure Formula, BuildsAlike x x
  | .error e => .error e
  | .ok f => .ok (.refl f)

/-- Alike builds continued alike stay alike. -/
theorem bind {x y : Except Failure Formula} {k k' : Formula → Except Failure Formula}
    (h : BuildsAlike x y) (hk : ∀ f g, f.LitVariant g → BuildsAlike (k f) (k' g)) :
    BuildsAlike (x >>= k) (y >>= k') := by
  cases h with
  | error e => exact .error e
  | ok hfg => exact hk _ _ hfg

end BuildsAlike

/-- A rule called on formulas that differ only in literals does the same thing to both. -/
theorem Term.applyRule_alike {f g : Formula} (r : Rule) (h : f.LitVariant g) :
    BuildsAlike (Term.applyRule r f) (Term.applyRule r g) := by
  have hrel := h.transform? r
  unfold Term.applyRule Rule.apply
  rw [h.kind?_eq, h.isNull_eq]
  -- the two calls take the same branch, and differ at most in what the rule builds
  rcases g.kind? with _ | k
  · exact .error _
  · by_cases hr : r.accepts k = true
    · by_cases hn : g.isNull = true
      · simp only [hr, hn, if_true]
        exact .error _
      · cases hf : r.transform? f <;> cases hg : r.transform? g <;> rw [hf, hg] at hrel <;>
          cases hrel
        · simp only [hr, hn, if_true]
          exact .refl _
        · simp only [hr, hn, if_true]
          exact .ok ‹_›
    · simp only [hr]
      exact .error _

/-- Bindings that differ only in the literals their placeholders stand for. -/
structure Bindings.LitVariant (β β' : Bindings) : Prop where
  declared : β'.declared = β.declared
  stored : β'.stored = β.stored
  param : ∀ p, Option.Rel Formula.LitVariant (β.param p) (β'.param p)

namespace Term

variable {β : Bindings} {op : Binary} {r : Rule} {s t : Term}

/-! The compound terms as continuations of the builds of their subterms. -/

theorem build_not : (Term.not t).build β = t.build β >>= fun a => .ok (.not a) := by
  simp only [build]
  cases t.build β <;> rfl

theorem build_bin :
    (Term.bin op s t).build β =
      s.build β >>= fun a => t.build β >>= fun b => .ok (.bin op a b) := by
  simp only [build]
  cases s.build β <;> cases t.build β <;> rfl

theorem build_byRule : (Term.byRule r t).build β = t.build β >>= applyRule r := by
  simp only [build]
  cases t.build β <;> rfl

end Term

/-- Building a term fails only when the term is malformed or calls a rule on an empty node. -/
theorem Term.build_eq_error {β : Bindings} {t : Term} {e : Failure} (h : t.build β = .error e) :
    e = .malformed ∨ e = .emptyReceiver := by
  induction t with
  | lit _ | absent | empty _ | dangling => simp [build] at h
  | ref x =>
    by_cases hx : β.declared x <;> simp [build, hx] at h
    exact .inl h.symm
  | param p | stored x =>
    simp only [build] at h
    split at h <;> simp at h
    exact .inl h.symm
  | unreadable =>
    simp only [build, Except.error.injEq] at h
    exact .inl h.symm
  | not t ih =>
    rw [build_not, except_bind_eq_error_iff] at h
    rcases h with h | ⟨a, -, h⟩
    · exact ih h
    · cases h
  | bin op s t ihs iht =>
    rw [build_bin, except_bind_eq_error_iff] at h
    rcases h with h | ⟨a, -, h⟩
    · exact ihs h
    rw [except_bind_eq_error_iff] at h
    rcases h with h | ⟨b, -, h⟩
    · exact iht h
    · cases h
  | byRule r t ih =>
    rw [build_byRule, except_bind_eq_error_iff] at h
    rcases h with h | ⟨f, -, h⟩
    · exact ih h
    -- a rule fails on a node not of its kind, or on an empty one
    unfold applyRule at h
    split at h <;> simp only [Except.error.injEq, reduceCtorEq] at h
    · exact .inl h.symm
    · exact .inr h.symm

/-- A term built on bindings whose placeholders stand for formulas that differ only in literals
builds alike. The induction follows `Term.build`: only a placeholder brings a difference in, and
`Term.applyRule_alike` carries it through the rules. -/
theorem Term.build_alike {β β' : Bindings} (hβ : β.LitVariant β') (t : Term) :
    BuildsAlike (t.build β) (t.build β') := by
  induction t with
  | lit _ | absent | empty _ | dangling | unreadable => exact .refl _
  | ref x =>
    simp only [build, hβ.declared]
    exact .refl _
  | stored x =>
    simp only [build, hβ.stored]
    exact .refl _
  | param p =>
    have hp := hβ.param p
    simp only [build]
    cases hf : β.param p <;> cases hg : β'.param p <;> rw [hf, hg] at hp <;> cases hp
    · exact .error _
    · exact .ok ‹_›
  | not t ih =>
    rw [build_not, build_not]
    exact ih.bind fun _ _ h => .ok (.not h)
  | bin op s t ihs iht =>
    rw [build_bin, build_bin]
    exact ihs.bind fun _ _ ha => iht.bind fun _ _ hb => .ok (.bin op ha hb)
  | byRule r t ih =>
    rw [build_byRule, build_byRule]
    exact ih.bind fun _ _ h => Term.applyRule_alike r h

/-- The rows of a table over two placeholders build alike. -/
theorem Workspace.instantiate₂_alike (w : Workspace) (t : Term) (a b a' b' : Bool) :
    BuildsAlike (w.instantiate₂ t a b) (w.instantiate₂ t a' b') := by
  unfold Workspace.instantiate₂
  apply Term.build_alike
  refine ⟨rfl, rfl, fun p => ?_⟩
  cases p <;> exact .some (.lit _ _)

/-- The rows of a table over one placeholder build alike. -/
theorem Workspace.instantiate₁_alike (w : Workspace) (t : Term) (a a' : Bool) :
    BuildsAlike (w.instantiate₁ t a) (w.instantiate₁ t a') := by
  unfold Workspace.instantiate₁
  apply Term.build_alike
  refine ⟨rfl, rfl, fun p => ?_⟩
  cases p
  exacts [.some (.lit _ _), .none]

/-! ## Tables fail at their first row -/

namespace TruthTable

section Rows

/-! A table, over one placeholder or two, is a list of steps, one per assignment: build the
formula of the assignment, evaluate it, and report a failed evaluation with the assignment's
values (`label`). -/

variable {κ ρ : Type} {σ : Valuation} {F : κ → Except Failure Formula} {label : κ → List Bool}
  {mk : κ → Bool → ρ} {k₀ : κ} {ks : List κ} {rows : List ρ} {e : Failure} {as : List Bool}
  {f : Formula} {v : Bool}

theorem solveRow_eq_ok_iff : solveRow σ as f = .ok v ↔ f.isTrue? σ = .ok v := by
  rw [solveRow, except_mapError_eq_ok_iff]

theorem solveRow_eq_error_iff :
    solveRow σ as f = .error e ↔
      ∃ m, f.isTrue? σ = .error (.noTruthValue m) ∧ e = .row ⟨as, m⟩ := by
  simp only [Formula.isTrue?_eq_error_iff]
  cases h : f.eval σ <;> simp [solveRow_eq, h, eq_comm]

theorem bind_solveRow_eq_error_iff {x : Except Failure Formula} :
    (x >>= solveRow σ as) = .error e ↔
      x = .error e ∨
        ∃ f m, x = .ok f ∧ f.isTrue? σ = .error (.noTruthValue m) ∧ e = .row ⟨as, m⟩ := by
  cases x with
  | error e' => simp [eq_comm]
  | ok f => simp [solveRow_eq_error_iff]

/-- A row fails because its formula cannot be built, which for a template means a malformed
template or a crash, or because the formula built has no truth value. -/
theorem bind_solveRow_eq_error_iff_of_build {x : Except Failure Formula}
    (hx : ∀ e, x = .error e → e = .malformed ∨ e = .emptyReceiver) :
    (x >>= solveRow σ as) = .error e ↔
      (∃ f m, x = .ok f ∧ f.isTrue? σ = .error (.noTruthValue m) ∧ e = .row ⟨as, m⟩) ∨
        (x = .error e ∧ (e = .malformed ∨ e = .emptyReceiver)) := by
  rw [bind_solveRow_eq_error_iff]
  constructor
  · rintro (h | h)
    · exact .inr ⟨h, hx e h⟩
    · exact .inl h
  · rintro (h | ⟨h, -⟩)
    · exact .inr h
    · exact .inl h

theorem exists_map_eq_ok_iff {α β ε : Type} {g : α → β} {x : Except ε α} :
    (∃ y, g <$> x = .ok y) ↔ ∃ a, x = .ok a := by
  cases x <;> simp [Functor.map, Except.map]

theorem map_eq_error_iff {α β ε : Type} {g : α → β} {x : Except ε α} {e : ε} :
    g <$> x = .error e ↔ x = .error e := by
  cases x <;> simp [Functor.map, Except.map]

/-- A row built alike to a row that has a value has a value too, whatever the two rows'
assignments: what fails evaluation in one fails it in the other. -/
theorem exists_solveRow_of_alike {x y : Except Failure Formula} (h : BuildsAlike x y)
    {bs : List Bool} (hx : ∃ v, (x >>= solveRow σ as) = .ok v) :
    ∃ v, (y >>= solveRow σ bs) = .ok v := by
  cases h with
  | error e' => simp at hx
  | @ok f g hfg =>
    rcases hx with ⟨v, hv⟩
    cases hg : g.eval σ with
    | ok w => exact ⟨w, by simp [solveRow_eq, hg]⟩
    | error m =>
      have hf : f.eval σ = .error m := hfg.eval_eq_error_iff.2 hg
      simp [solveRow_eq, hf] at hv

/-- A table whose rows build alike fails exactly with the failure of its first row: once the first
row has a value, every later one has one. -/
theorem mapM_rows_eq_error_iff (F : κ → Except Failure Formula) (label : κ → List Bool)
    (mk : κ → Bool → ρ) (hF : ∀ k ∈ ks, BuildsAlike (F k₀) (F k)) :
    ((k₀ :: ks).mapM fun k => mk k <$> (F k >>= solveRow σ (label k))) = .error e ↔
      (F k₀ >>= solveRow σ (label k₀)) = .error e := by
  constructor
  · intro h
    cases hx : F k₀ >>= solveRow σ (label k₀) with
    | error e' =>
      simp [List.mapM_cons, hx, Functor.map, Except.map] at h
      rw [h]
    | ok v =>
      -- the first row has a value, so every later row has one, and the table has no failure
      have hrest : ∃ ys, (ks.mapM fun k => mk k <$> (F k >>= solveRow σ (label k))) = .ok ys :=
        exists_mapM_eq_ok_iff.2 fun k hk =>
          exists_map_eq_ok_iff.2 (exists_solveRow_of_alike (hF k hk) ⟨v, hx⟩)
      rcases hrest with ⟨ys, hys⟩
      rw [List.mapM_cons, hys, hx] at h
      simp [Functor.map, Except.map, pure, Except.pure] at h
  · intro h
    simp [List.mapM_cons, h, Functor.map, Except.map]

/-- A table without failed rows has one row per assignment, in order, each made from the value of
the formula built for that assignment. -/
theorem forall₂_of_mapM_rows_eq_ok (F : κ → Except Failure Formula) (label : κ → List Bool)
    (mk : κ → Bool → ρ) (h : (ks.mapM fun k => mk k <$> (F k >>= solveRow σ (label k))) = .ok rows) :
    List.Forall₂ (fun k r => ∃ f v, F k = .ok f ∧ f.isTrue? σ = .ok v ∧ r = mk k v) ks rows := by
  refine (mapM_eq_ok_iff.1 h).imp fun k r hr => ?_
  cases hF : F k with
  | error e' => simp [hF, Functor.map, Except.map] at hr
  | ok f =>
    cases hv : solveRow σ (label k) f with
    | error e' => simp [hF, hv, Functor.map, Except.map] at hr
    | ok v =>
      simp only [hF, hv, except_ok_bind, Functor.map, Except.map, Except.ok.injEq] at hr
      exact ⟨f, v, rfl, solveRow_eq_ok_iff.1 hv, hr.symm⟩

end Rows

variable {σ : Valuation} {F : Bool → Bool → Except Failure Formula}
  {G : Bool → Except Failure Formula} {e : Failure}

/-- The truth value in the row of an assignment of one placeholder, or why the row fails. -/
def unaryValueAt (σ : Valuation) (family : Bool → Except Failure Formula) (a : Bool) :
    Except Failure Bool :=
  family a >>= solveRow σ [a]

theorem unary_eq_mapM :
    unary σ G = unaryAssignments.mapM fun a =>
      (fun v => (⟨a, v⟩ : UnaryRow)) <$> unaryValueAt σ G a := by
  unfold unary
  congr
  funext a
  show (do let f ← G a; let v ← solveRow σ [a] f; pure (⟨a, v⟩ : UnaryRow)) =
    (fun v => (⟨a, v⟩ : UnaryRow)) <$> (G a >>= solveRow σ [a])
  cases G a with
  | error e => rfl
  | ok f => cases solveRow σ [a] f <;> rfl

/-- A table over two placeholders whose rows build alike fails exactly with the failure of its
first row, `(True, True)`. -/
theorem binary_eq_error_iff_first (hF : ∀ a b, BuildsAlike (F true true) (F a b)) :
    binary σ F = .error e ↔ valueAt σ F true true = .error e := by
  rw [binary_eq_mapM,
    show binaryAssignments = (true, true) :: [(true, false), (false, true), (false, false)] from rfl]
  exact mapM_rows_eq_error_iff (fun ab : Bool × Bool => F ab.1 ab.2) (fun ab => [ab.1, ab.2])
    (fun ab v => (⟨ab.1, ab.2, v⟩ : Row)) fun ab _ => hF ab.1 ab.2

/-- A table over one placeholder whose rows build alike fails exactly with the failure of its
first row, `(True)`. -/
theorem unary_eq_error_iff_first (hG : ∀ a, BuildsAlike (G true) (G a)) :
    unary σ G = .error e ↔ unaryValueAt σ G true = .error e := by
  rw [unary_eq_mapM, show unaryAssignments = true :: [false] from rfl]
  exact mapM_rows_eq_error_iff G (fun a => [a]) (fun a v => (⟨a, v⟩ : UnaryRow)) fun a _ => hG a

/-- A table over two placeholders without failed rows has its four rows in table order, each with
the truth value of the formula built for its assignment. -/
theorem rows_of_binary_eq_ok {rows : List Row} (h : binary σ F = .ok rows) :
    List.Forall₂ (fun ab r => r.a = ab.1 ∧ r.b = ab.2 ∧
        ∃ f, F ab.1 ab.2 = .ok f ∧ f.isTrue? σ = .ok r.value)
      [(true, true), (true, false), (false, true), (false, false)] rows := by
  rw [binary_eq_mapM] at h
  refine (forall₂_of_mapM_rows_eq_ok (fun ab : Bool × Bool => F ab.1 ab.2)
    (fun ab => [ab.1, ab.2]) (fun ab v => (⟨ab.1, ab.2, v⟩ : Row)) h).imp ?_
  rintro ab r ⟨f, v, hf, hv, rfl⟩
  exact ⟨rfl, rfl, f, hf, hv⟩

/-- A table over one placeholder without failed rows has its two rows in table order, each with the
truth value of the formula built for its assignment. -/
theorem rows_of_unary_eq_ok {rows : List UnaryRow} (h : unary σ G = .ok rows) :
    List.Forall₂ (fun a r => r.a = a ∧ ∃ f, G a = .ok f ∧ f.isTrue? σ = .ok r.value)
      [true, false] rows := by
  rw [unary_eq_mapM] at h
  refine (forall₂_of_mapM_rows_eq_ok G (fun a => [a]) (fun a v => (⟨a, v⟩ : UnaryRow)) h).imp ?_
  rintro a r ⟨f, v, hf, hv, rfl⟩
  exact ⟨rfl, f, hf, hv⟩

/-- A comparison fails with the failure of the first table, or else with that of the second. -/
theorem equivalent_eq_error {G' : Bool → Bool → Except Failure Formula}
    (h : equivalent σ F G' = .error e) :
    (∃ e', binary σ F = .error e' ∧ e = e'.inTable .first) ∨
      ∃ e', binary σ G' = .error e' ∧ e = e'.inTable .second := by
  cases h₁ : binary σ F with
  | error e' =>
    rw [equivalent_of_binary_eq_error h₁, Except.error.injEq] at h
    exact .inl ⟨e', rfl, h.symm⟩
  | ok rows =>
    cases h₂ : binary σ G' with
    | error e' =>
      rw [equivalent_of_binary_eq_ok_of_eq_error h₁ h₂, Except.error.injEq] at h
      exact .inr ⟨e', rfl, h.symm⟩
    | ok rows' =>
      rw [equivalent_of_binary_eq_ok h₁ h₂] at h
      cases h

/-- The table of a template over two placeholders fails with a failure of its first row: the
formula built there has no truth value, or the template is malformed or crashes. -/
theorem binary_instantiate₂_eq_error {w : Workspace} {t : Term}
    (h : binary σ (w.instantiate₂ t) = .error e) :
    (∃ m, e = .row ⟨[true, true], m⟩) ∨ e = .malformed ∨ e = .emptyReceiver := by
  rw [binary_eq_error_iff_first (w.instantiate₂_alike t true true), valueAt] at h
  have hbuild : ∀ e', w.instantiate₂ t true true = .error e' →
      e' = .malformed ∨ e' = .emptyReceiver := fun _ he => Term.build_eq_error he
  rcases (bind_solveRow_eq_error_iff_of_build hbuild).1 h with ⟨f, m, -, -, rfl⟩ | ⟨-, h⟩
  · exact .inl ⟨m, rfl⟩
  · exact .inr h

end TruthTable

open TruthTable in
/-- Truth tables enumerate the truth function of a template and can fail only at their first row.

A table over two placeholders either has the four rows `(T, T), (T, F), (F, T), (F, F)`, in that
order, each with the truth value of the template built on the row's literals, or it fails with the
failure of its row `(T, T)`: the formula built there has no truth value, or the template cannot be
built there, because it is malformed or crashes. No later row fails first: the rows build formulas
that differ only in literals, and evaluation fails alike on them. The same holds of a table over
one placeholder, whose first row is `(T)`, and every failed row that a comparison of two templates
reports is the row `(T, T)` of one of its tables. The reports name the row. -/
theorem truth_tables_fail_only_at_first_row (σ : Valuation) (w : Workspace) (t s : Term) :
    (∀ rows, binary σ (w.instantiate₂ t) = .ok rows →
      List.Forall₂ (fun ab r => r.a = ab.1 ∧ r.b = ab.2 ∧
          ∃ f, w.instantiate₂ t ab.1 ab.2 = .ok f ∧ f.isTrue? σ = .ok r.value)
        [(true, true), (true, false), (false, true), (false, false)] rows) ∧
    (∀ e, binary σ (w.instantiate₂ t) = .error e ↔
      (∃ f m, w.instantiate₂ t true true = .ok f ∧ f.isTrue? σ = .error (.noTruthValue m) ∧
          e = .row ⟨[true, true], m⟩) ∨
        (w.instantiate₂ t true true = .error e ∧ (e = .malformed ∨ e = .emptyReceiver))) ∧
    (∀ rows, unary σ (w.instantiate₁ t) = .ok rows →
      List.Forall₂ (fun a r => r.a = a ∧ ∃ f, w.instantiate₁ t a = .ok f ∧ f.isTrue? σ = .ok r.value)
        [true, false] rows) ∧
    (∀ e, unary σ (w.instantiate₁ t) = .error e ↔
      (∃ f m, w.instantiate₁ t true = .ok f ∧ f.isTrue? σ = .error (.noTruthValue m) ∧
          e = .row ⟨[true], m⟩) ∨
        (w.instantiate₁ t true = .error e ∧ (e = .malformed ∨ e = .emptyReceiver))) ∧
    (∀ e, equivalent σ (w.instantiate₂ t) (w.instantiate₂ s) = .error e →
      (∃ side m, e = .comparison side ⟨[true, true], m⟩) ∨ e = .malformed ∨
        e = .emptyReceiver) ∧
    (∀ m : Mismatch,
      (Failure.row ⟨[true, true], m⟩).message =
          some ("failed solving row (True, True): " ++ m.message) ∧
        (Failure.row ⟨[true], m⟩).message = some ("failed solving row (True): " ++ m.message) ∧
        ∀ side, (Failure.comparison side ⟨[true, true], m⟩).message =
          some ("failed building " ++ side.ordinal ++ " truth table: " ++
            ("failed solving row (True, True): " ++ m.message))) := by
  refine ⟨fun rows h => rows_of_binary_eq_ok h, fun e => ?_, fun rows h => rows_of_unary_eq_ok h,
    fun e => ?_, fun e h => ?_, fun m => ⟨rfl, rfl, fun side => rfl⟩⟩
  · rw [binary_eq_error_iff_first (w.instantiate₂_alike t true true), valueAt]
    exact bind_solveRow_eq_error_iff_of_build fun _ he => Term.build_eq_error he
  · rw [unary_eq_error_iff_first (w.instantiate₁_alike t true), unaryValueAt]
    exact bind_solveRow_eq_error_iff_of_build fun _ he => Term.build_eq_error he
  · -- a failed row of either table is its first, and the comparison names the table
    rcases equivalent_eq_error h with ⟨e', he', rfl⟩ | ⟨e', he', rfl⟩
    all_goals
      rcases binary_instantiate₂_eq_error he' with ⟨m, rfl⟩ | rfl | rfl
      · exact .inl ⟨_, m, rfl⟩
      · exact .inr (.inl rfl)
      · exact .inr (.inr rfl)

end Propositional
