import Propositional.Proofs.EmptyReceiver
import Propositional.Request

/-!
# Sessions behave like sequences of independent requests

A session runs its steps over one workspace: the variables, and the formulas stored by name. This
file shows that a session keeps no state beyond these two. A step that fails changes neither, and
only setting a variable or storing a formula changes anything. Setting a variable that exists
changes its value where it stands, so a formula stored earlier sees the new value. And every other
step is answered as a request of its own would be: one that starts from the session's current
variables, and in which every stored formula the step names is written out as a term.

The argument rests on an invariant of every workspace a session reaches (`Workspace.Coherent`): no
variable is listed twice, and every stored formula refers only to variables that exist. Then the
store is rebuilt exactly from its own list of variables, and a stored formula, written out as a
term, builds back to itself.

## Main definitions

* `Formula.toTerm`: a formula written out as a term.
* `Term.inline`, `Query.inline`: a term or query with its stored formulas written out.
* `Step.after`: the workspace after a list of steps.
* `Workspace.Coherent`: the invariant.

## Main statements

* `Workspace.Coherent.run`: every step keeps the invariant.
* `Query.answer_inline`: a query answers in a workspace as its written-out form answers on the
  workspace's variables alone.
* `session_steps_answer_as_requests`.
-/

namespace Propositional

/-! ## Variable stores -/

namespace Store

variable {s : Store} {x y : String} {v : Bool}

/-- The names of the variables, oldest first. -/
def names (s : Store) : List String := s.entries.map Prod.fst

/-- Setting a variable that exists replaces its entry where it stands. -/
def replace (x : String) (v : Bool) (e : String × Bool) : String × Bool :=
  if e.1 = x then (x, v) else e

theorem contains_iff : s.contains x = true ↔ ∃ b, s.entries.lookup x = some b := by
  simp only [contains, get?]
  exact Option.isSome_iff_exists

theorem set_of_contains (h : s.contains x = true) :
    s.set x v = ⟨s.entries.map (replace x v)⟩ := by
  simp [set, h, replace]

theorem set_of_not_contains (h : s.contains x = false) : s.set x v = ⟨s.entries ++ [(x, v)]⟩ := by
  simp [set, h]

theorem lookup_cons_ite {β : Type} {k : String} {b : β} {es : List (String × β)} :
    ((k, b) :: es).lookup y = if y = k then some b else es.lookup y := by
  by_cases hy : y = k
  · simp [hy]
  · have hne : (y == k) = false := by simpa using hy
    simp [List.lookup_cons, hne, hy]

theorem lookup_map_replace (es : List (String × Bool)) :
    (es.map (replace x v)).lookup y = if y = x then (es.lookup x).map fun _ => v else es.lookup y := by
  induction es with
  | nil => by_cases hy : y = x <;> simp [hy]
  | cons e es ih =>
    obtain ⟨k, b⟩ := e
    by_cases hk : k = x
    · -- the entry of `x` itself is replaced
      subst hk
      by_cases hy : y = k <;> simp [replace, lookup_cons_ite, hy, ih]
    · have hxk : ¬ x = k := fun h => hk h.symm
      by_cases hy : y = k
      · subst hy
        simp [replace, hk]
      · simp [replace, lookup_cons_ite, hk, hy, hxk, ih]

theorem names_map_replace (es : List (String × Bool)) :
    (es.map (replace x v)).map Prod.fst = es.map Prod.fst := by
  induction es with
  | nil => rfl
  | cons e es ih =>
    by_cases hk : e.1 = x <;> simp [replace, hk, ih]

/-- Setting a variable gives it the new value and leaves every other variable as it was. -/
theorem get?_set : (s.set x v).get? y = if y = x then some v else s.get? y := by
  cases hc : s.contains x
  · -- a new variable goes at the end, after every entry, none of which has its name
    have hnone : s.entries.lookup x = none := by
      cases hl : s.entries.lookup x with
      | none => rfl
      | some b => simp [contains_iff.2 ⟨b, hl⟩] at hc
    rw [set_of_not_contains hc]
    by_cases hy : y = x
    · subst hy
      simp [get?, List.lookup_append, hnone]
    · cases hl : s.entries.lookup y <;> simp [get?, List.lookup_append, hy, hl]
  · rw [set_of_contains hc]
    obtain ⟨b, hb⟩ := contains_iff.1 hc
    by_cases hy : y = x
    · subst hy
      simp [get?, lookup_map_replace, hb]
    · simp [get?, lookup_map_replace, hy]

theorem value_set : (s.set x v).value = Function.update s.value x v := by
  funext y
  by_cases hy : y = x
  · subst hy
    simp [value, get?_set]
  · simp [value, get?_set, hy]

theorem contains_set : (s.set x v).contains y = (decide (y = x) || s.contains y) := by
  by_cases hy : y = x
  · subst hy
    simp [contains, get?_set]
  · simp [contains, get?_set, hy]

/-- Setting a variable that exists keeps every name where it stands; a new one goes at the end. -/
theorem names_set : (s.set x v).names = if s.contains x then s.names else s.names ++ [x] := by
  cases hc : s.contains x
  · simp [names, set_of_not_contains hc]
  · rw [set_of_contains hc]
    simp only [names, names_map_replace, ↓reduceIte]

/-- A variable exists exactly when it is among the names. -/
theorem contains_iff_mem_names : s.contains x = true ↔ x ∈ s.names := by
  constructor
  · intro h
    obtain ⟨b, hb⟩ := contains_iff.1 h
    obtain ⟨l₁, l₂, hl, -⟩ := List.lookup_eq_some_iff.1 hb
    simp [names, hl]
  · intro hx
    obtain ⟨e, he, rfl⟩ := List.mem_map.1 hx
    cases hl : s.entries.lookup e.1 with
    | some b => exact contains_iff.2 ⟨b, hl⟩
    | none => simpa using List.lookup_eq_none_iff.1 hl e he

theorem not_mem_names_of_contains_eq_false (h : s.contains x = false) : x ∉ s.names :=
  fun hx => by simp [contains_iff_mem_names.2 hx] at h

theorem nodup_names_set (h : s.names.Nodup) : (s.set x v).names.Nodup := by
  rw [names_set]
  cases hc : s.contains x
  · -- the new name is none of the old ones
    rw [if_neg (by simp), List.nodup_append]
    refine ⟨h, List.nodup_singleton x, fun a ha b hb hab => ?_⟩
    rw [List.mem_singleton] at hb
    exact not_mem_names_of_contains_eq_false hc (hb ▸ hab ▸ ha)
  · simpa using h

/-- Setting variables one after another from a store creates each in turn, when none is listed
twice and none exists yet. -/
theorem foldl_set_of_nodup (es : List (String × Bool)) (s : Store)
    (h : (s.names ++ es.map Prod.fst).Nodup) :
    es.foldl (fun s e => s.set e.1 e.2) s = ⟨s.entries ++ es⟩ := by
  induction es generalizing s with
  | nil => simp
  | cons e es ih =>
    have hx : e.1 ∉ s.names := by
      intro hmem
      exact (List.nodup_append.1 h).2.2 e.1 hmem e.1 (by simp) rfl
    have hc : s.contains e.1 = false := Bool.eq_false_iff.2 fun hc => hx (contains_iff_mem_names.1 hc)
    rw [List.foldl_cons, set_of_not_contains hc, ih]
    · simp
    · simpa [names, List.append_assoc] using h

/-- A store is rebuilt from its own list of variables, when no name is listed twice. -/
theorem ofList_entries (h : s.names.Nodup) : Store.ofList s.entries = s := by
  have hs := foldl_set_of_nodup s.entries empty (by simpa [empty, names] using h)
  simpa [ofList, empty] using hs

theorem nodup_names_ofList (vs : List (String × Bool)) : (Store.ofList vs).names.Nodup := by
  unfold ofList
  -- every variable is set on a store that lists no name twice
  suffices ∀ s : Store, s.names.Nodup →
      (vs.foldl (fun s e => s.set e.1 e.2) s).names.Nodup from this empty (by simp [empty, names])
  induction vs with
  | nil => exact fun s hs => hs
  | cons e vs ih => exact fun s hs => ih _ (nodup_names_set hs)

end Store

/-! ## Formulas written out as terms -/

namespace Formula

/-- The variables a formula refers to. -/
def vars : Formula → List String
  | .var x => [x]
  | .not a => a.vars
  | .bin _ a b => a.vars ++ b.vars
  | _ => []

/-- A formula written out as a term that describes it. -/
def toTerm : Formula → Term
  | .lit v => .lit v
  | .var x => .ref x
  | .dangling => .dangling
  | .not a => .not a.toTerm
  | .bin op a b => .bin op a.toTerm b.toTerm
  | .absent => .absent
  | .empty k => .empty k

/-- A formula written out builds back to itself wherever its variables exist. -/
theorem build_toTerm {β : Bindings} (f : Formula) (h : ∀ x ∈ f.vars, β.declared x = true) :
    f.toTerm.build β = .ok f := by
  induction f with
  | var x => simp [toTerm, Term.build, h x (by simp [vars])]
  | not a ih =>
    rw [toTerm, Term.build_not, ih (by simpa [vars] using h)]
    rfl
  | bin op a b iha ihb =>
    have ha : ∀ x ∈ a.vars, β.declared x = true := fun x hx => h x (by simp [vars, hx])
    have hb : ∀ x ∈ b.vars, β.declared x = true := fun x hx => h x (by simp [vars, hx])
    rw [toTerm, Term.build_bin, iha ha, ihb hb]
    rfl
  | _ => rfl

end Formula

/-- A rule rebuilds a node over its operands, and refers to no variable the node does not. -/
theorem Rule.vars_transform? {r : Rule} {f g : Formula} (h : r.transform? f = some g) :
    ∀ x ∈ g.vars, x ∈ f.vars := by
  unfold Rule.transform? at h
  split at h <;> cases h <;> intro x hx <;> simp only [Formula.vars, List.mem_append] at hx ⊢ <;>
    tauto

/-- A formula built from a term refers only to variables that exist, when the stored formulas and
the placeholders' formulas do. -/
theorem Term.vars_of_build {β : Bindings} {t : Term} {f : Formula} (h : t.build β = .ok f)
    (hstored : ∀ n g, β.stored n = some g → ∀ x ∈ g.vars, β.declared x = true)
    (hparam : ∀ p g, β.param p = some g → ∀ x ∈ g.vars, β.declared x = true) :
    ∀ x ∈ f.vars, β.declared x = true := by
  induction t generalizing f with
  | lit _ | absent | empty _ | dangling =>
    simp only [build, Except.ok.injEq] at h
    subst h
    simp [Formula.vars]
  | unreadable => simp [build] at h
  | ref y =>
    by_cases hy : β.declared y <;> simp [build, hy] at h
    subst h
    simpa [Formula.vars] using hy
  | param p =>
    simp only [build] at h
    split at h <;> simp only [Except.ok.injEq, reduceCtorEq] at h
    subst h
    exact hparam p _ ‹_›
  | stored n =>
    simp only [build] at h
    split at h <;> simp only [Except.ok.injEq, reduceCtorEq] at h
    subst h
    exact hstored n _ ‹_›
  | not t ih =>
    rw [build_not, except_bind_eq_ok_iff] at h
    obtain ⟨a, ha, h⟩ := h
    cases h
    simpa [Formula.vars] using ih ha
  | bin op s t ihs iht =>
    rw [build_bin, except_bind_eq_ok_iff] at h
    obtain ⟨a, ha, h⟩ := h
    rw [except_bind_eq_ok_iff] at h
    obtain ⟨b, hb, h⟩ := h
    cases h
    intro x hx
    simp only [Formula.vars, List.mem_append] at hx
    exact hx.elim (ihs ha x) (iht hb x)
  | byRule r t ih =>
    rw [build_byRule, except_bind_eq_ok_iff] at h
    obtain ⟨a, ha, h⟩ := h
    -- the rule refers to no new variable, and a refused one builds the absent formula
    obtain ⟨k, -, -, -, rfl⟩ := applyRule_eq_ok_iff.1 h
    intro x hx
    cases hg : r.transform? a with
    | none => simp [hg, Formula.vars] at hx
    | some g =>
      rw [hg, Option.getD_some] at hx
      exact ih ha x (Rule.vars_transform? hg x hx)

/-- A term with its stored formulas written out, each as it is stored now. -/
def Term.inline (fs : List (String × Formula)) : Term → Term
  | .stored x =>
    match fs.lookup x with
    | some f => f.toTerm
    | none => .stored x
  | .not t => .not (t.inline fs)
  | .bin op s t => .bin op (s.inline fs) (t.inline fs)
  | .byRule r t => .byRule r (t.inline fs)
  | t => t

/-- A query with the stored formulas of its terms written out. -/
def Query.inline (fs : List (String × Formula)) : Query → Query
  | .text t => .text (t.inline fs)
  | .truthValue t => .truthValue (t.inline fs)
  | .isTrue t => .isTrue (t.inline fs)
  | .operands t => .operands (t.inline fs)
  | .canDropDoubleNegation t => .canDropDoubleNegation (t.inline fs)
  | .byRule r t => .byRule r (t.inline fs)
  | .yaml t => .yaml (t.inline fs)
  | .unaryTable t => .unaryTable (t.inline fs)
  | .table t => .table (t.inline fs)
  | .equivalent s t => .equivalent (s.inline fs) (t.inline fs)

/-! ## The workspaces of a session -/

namespace Workspace

variable {w : Workspace} {x n : String} {v : Bool} {f : Formula} {t : Term}

/-- What every workspace of a session satisfies: no variable is listed twice, and every stored
formula refers only to variables that exist. -/
structure Coherent (w : Workspace) : Prop where
  nodup : w.store.names.Nodup
  declared : ∀ n f, w.formulas.lookup n = some f → ∀ x ∈ f.vars, w.store.contains x = true

theorem lookup_define {m : String} :
    (w.define n f).formulas.lookup m = if m = n then some f else w.formulas.lookup m :=
  Store.lookup_cons_ite

theorem coherent_ofStore_ofList (vars : List (String × Bool)) :
    (ofStore (.ofList vars)).Coherent where
  nodup := Store.nodup_names_ofList vars
  declared := by simp [ofStore]

/-- A formula built in a coherent workspace refers only to variables that exist. -/
theorem Coherent.vars_of_build (hw : w.Coherent) (h : w.build t = .ok f) :
    ∀ x ∈ f.vars, w.store.contains x = true :=
  Term.vars_of_build h hw.declared (by simp [bindings])

/-- Setting a variable keeps a workspace coherent: a variable that existed still exists. -/
theorem Coherent.assign (hw : w.Coherent) : (w.assign x v).Coherent where
  nodup := Store.nodup_names_set hw.nodup
  declared m g hg y hy := by
    show (w.store.set x v).contains y = true
    rw [Store.contains_set, hw.declared m g hg y hy, Bool.or_true]

theorem Coherent.define (hw : w.Coherent) (hf : ∀ x ∈ f.vars, w.store.contains x = true) :
    (w.define n f).Coherent where
  nodup := hw.nodup
  declared m g hg := by
    rw [lookup_define] at hg
    split at hg
    · cases hg
      exact hf
    · exact hw.declared m g hg

/-- Every step keeps a workspace coherent. -/
theorem Coherent.run (hw : w.Coherent) (s : Step) : (s.run w).2.Coherent := by
  cases s with
  | query q => exact hw
  | set x v => exact hw.assign
  | define n t =>
    cases hb : w.build t with
    | error e => simpa [Step.run, hb] using hw
    | ok f => simpa [Step.run, hb] using hw.define (hw.vars_of_build hb)
  | unreadable => exact hw

/-! ## Requests with their stored formulas written out -/

/-- Building a term in a coherent workspace gives what its written-out form gives on the
workspace's variables alone: each stored formula, written out, builds back to itself. -/
theorem Coherent.build_inline (hw : w.Coherent) (p : Param → Option Formula) (t : Term) :
    (t.inline w.formulas).build ((ofStore w.store).bindings p) = t.build (w.bindings p) := by
  induction t with
  | stored x =>
    cases hx : w.formulas.lookup x with
    | none => simp [Term.inline, hx, Term.build, bindings, ofStore]
    | some f =>
      simp only [Term.inline, hx]
      rw [Formula.build_toTerm f (hw.declared x f hx)]
      simp [Term.build, bindings, hx]
  | not t ih => rw [Term.inline, Term.build_not, Term.build_not, ih]
  | bin op s t ihs iht => rw [Term.inline, Term.build_bin, Term.build_bin, ihs, iht]
  | byRule r t ih => rw [Term.inline, Term.build_byRule, Term.build_byRule, ih]
  | _ => rfl

theorem Coherent.instantiate₁_inline (hw : w.Coherent) (t : Term) :
    (ofStore w.store).instantiate₁ (t.inline w.formulas) = w.instantiate₁ t :=
  funext fun _ => hw.build_inline _ t

theorem Coherent.instantiate₂_inline (hw : w.Coherent) (t : Term) :
    (ofStore w.store).instantiate₂ (t.inline w.formulas) = w.instantiate₂ t :=
  funext fun _ => funext fun _ => hw.build_inline _ t

end Workspace

/-- A query answers in a coherent workspace as its written-out form answers on the workspace's
variables alone. -/
theorem Query.answer_inline {w : Workspace} (hw : w.Coherent) (q : Query) :
    (q.inline w.formulas).answer (.ofStore w.store) = q.answer w := by
  have hbuild := hw.build_inline
  cases q <;> simp only [Query.inline, Query.answer, Workspace.build, hbuild,
    hw.instantiate₁_inline, hw.instantiate₂_inline] <;> rfl

/-- The workspace after the given steps, run in order. -/
def Step.after (w : Workspace) : List Step → Workspace
  | [] => w
  | s :: ss => Step.after (s.run w).2 ss

namespace Step

theorem runAll_cons (w : Workspace) (s : Step) (ss : List Step) :
    runAll w (s :: ss) = (s.run w).1 :: runAll (s.run w).2 ss := rfl

/-- A session runs its later steps in the workspace its earlier steps left. -/
theorem runAll_append (w : Workspace) (pre post : List Step) :
    runAll w (pre ++ post) = runAll w pre ++ runAll (after w pre) post := by
  induction pre generalizing w with
  | nil => rfl
  | cons s pre ih => rw [List.cons_append, runAll_cons, runAll_cons, ih, after, List.cons_append]

/-- Every workspace a session reaches is coherent. -/
theorem coherent_after {w : Workspace} (hw : w.Coherent) (pre : List Step) :
    (after w pre).Coherent := by
  induction pre generalizing w with
  | nil => exact hw
  | cons s pre ih => exact ih (hw.run s)

/-- What a step can do: leave the workspace as it was, set a variable, or store a formula that it
built. A step that fails does the first. -/
theorem run_cases (w : Workspace) (s : Step) :
    ((∃ e, (s.run w).1 = .error e) → (s.run w).2 = w) ∧
      ((s.run w).2 = w ∨ (∃ x v, s = .set x v ∧ (s.run w).2 = w.assign x v) ∨
        ∃ n t f, s = .define n t ∧ w.build t = .ok f ∧ (s.run w).2 = w.define n f) := by
  cases s with
  | query q => exact ⟨fun _ => rfl, .inl rfl⟩
  | set x v =>
    refine ⟨fun ⟨e, he⟩ => ?_, .inr (.inl ⟨x, v, rfl, rfl⟩)⟩
    simp [run] at he
  | define n t =>
    cases hb : w.build t with
    | error e => exact ⟨fun _ => by simp [run, hb], .inl (by simp [run, hb])⟩
    | ok f =>
      refine ⟨fun ⟨e, he⟩ => by simp [run, hb] at he, .inr (.inr ⟨n, t, f, rfl, hb, ?_⟩)⟩
      simp [run, hb]
  | unreadable => exact ⟨fun _ => rfl, .inl rfl⟩

end Step

/-- A session behaves like a sequence of independent requests.

Take any session, over any variables and any steps, failing ones included, and any step `s` of it,
with `w` the workspace that the steps before it left. The session answers `s` as `s` answers in
`w`, and runs the steps after it in the workspace `s` leaves. A step that fails leaves the
workspace as it was, and only setting a variable or storing a formula changes anything. Setting a
variable gives it the new value, in its place when it exists and at the end when it is new, and
leaves the stored formulas as they were, so that they read the new value. Storing a formula changes
only what its own name stands for, so formulas stored before keep the formulas they were built
from. Every other step is answered as the request of the same operation is answered, on the
session's current variables, with each stored formula it names written out as a term. -/
theorem session_steps_answer_as_requests (vars : List (String × Bool)) (pre : List Step)
    (s : Step) (post : List Step) :
    let w := Step.after (.ofStore (.ofList vars)) pre
    Step.runAll (.ofStore (.ofList vars)) (pre ++ s :: post) =
        Step.runAll (.ofStore (.ofList vars)) pre ++ (s.run w).1 :: Step.runAll (s.run w).2 post ∧
      ((∃ e, (s.run w).1 = .error e) → (s.run w).2 = w) ∧
      ((s.run w).2 = w ∨ (∃ x v, s = .set x v ∧ (s.run w).2 = w.assign x v) ∨
        ∃ n t f, s = .define n t ∧ w.build t = .ok f ∧ (s.run w).2 = w.define n f) ∧
      (∀ x v, s = .set x v →
        (s.run w).2.valuation = Function.update w.valuation x v ∧
          (s.run w).2.formulas = w.formulas ∧
          (s.run w).2.store.names =
            if w.store.contains x then w.store.names else w.store.names ++ [x]) ∧
      (∀ n t f, s = .define n t → w.build t = .ok f → ∀ m,
        (s.run w).2.formulas.lookup m = if m = n then some f else w.formulas.lookup m) ∧
      (∀ q, s = .query q →
        Request.answer (.query w.store.entries (q.inline w.formulas)) = .reply (s.run w).1) ∧
      (s = .unreadable → Request.answer .unreadable = .reply (s.run w).1) := by
  intro w
  have hw : w.Coherent := Step.coherent_after (Workspace.coherent_ofStore_ofList vars) pre
  obtain ⟨hfail, hcases⟩ := Step.run_cases w s
  refine ⟨?_, hfail, hcases, ?_, ?_, ?_, ?_⟩
  · rw [Step.runAll_append, Step.runAll_cons]
  · rintro x v rfl
    exact ⟨Store.value_set, rfl, Store.names_set⟩
  · rintro n t f rfl hf m
    simp only [Step.run, hf]
    exact Workspace.lookup_define
  · -- the request rebuilds the session's store from its variables, and the written-out formulas
    -- build back to the stored ones
    rintro q rfl
    simp only [Request.answer, Store.ofList_entries hw.nodup, Query.answer_inline hw, Step.run]
  · rintro rfl
    rfl

end Propositional
