import Propositional.Proofs.GuardedCalls

/-!
# Evaluation reports the leftmost defect

`Formula.eval` walks a formula left to right and stops at the first defect it meets. This file
says what that walk computes without following it:

* `Formula.DefectAt e p d` — the operand path `p` leads from the top of `e` to a position that holds
  the defect `d`;
* `Formula.Sound e` — no position of `e` holds a defect;
* `PathBefore p q` — the position `p` lies to the left of the position `q`;
* `Formula.LeftmostDefect e m` — `m` is a path to a defect of `e`, and every other defect lies to
  its right.

The main statements are `eval_eq_ok_iff` (a formula has a truth value exactly when it is sound, and
the value is the standard Boolean meaning) and `eval_eq_error_iff` (otherwise evaluation reports
the leftmost defect, with the path that leads to it). Evaluation never short-circuits: a defect in
the right operand of a conjunction is reported even when the left operand is false.
-/

namespace Propositional

/-! ## Positions of defects -/

/-- `PathBefore p q`: the position reached by `p` lies to the left of the one reached by `q`. The
two paths agree down to a binary node, where `p` takes the left operand and `q` the right one. -/
inductive PathBefore : List Frame → List Frame → Prop where
  | split {op : Binary} {p q : List Frame} : PathBefore (.left op :: p) (.right op :: q)
  | cons {f : Frame} {p q : List Frame} : PathBefore p q → PathBefore (f :: p) (f :: q)

namespace PathBefore

theorem ne {p q : List Frame} (h : PathBefore p q) : p ≠ q := by
  induction h with
  | split => simp
  | cons _ ih => simpa using ih

theorem irrefl {p : List Frame} : ¬ PathBefore p p :=
  fun h => h.ne rfl

theorem asymm {p q : List Frame} (h : PathBefore p q) : ¬ PathBefore q p := by
  induction h with
  | split =>
    intro h'
    cases h'
  | cons _ ih =>
    intro h'
    cases h' with
    | cons h'' => exact ih h''

end PathBefore

namespace Formula

/-- `e.DefectAt p d`: following the operand path `p` from the top of `e` leads to a position that
holds the defect `d`. -/
inductive DefectAt : Formula → List Frame → Defect → Prop where
  | here {e : Formula} {d : Defect} : e.defect? = some d → DefectAt e [] d
  | negand {a : Formula} {p : List Frame} {d : Defect} :
      DefectAt a p d → DefectAt (.not a) (.negand :: p) d
  | left {op : Binary} {a b : Formula} {p : List Frame} {d : Defect} :
      DefectAt a p d → DefectAt (.bin op a b) (.left op :: p) d
  | right {op : Binary} {a b : Formula} {p : List Frame} {d : Defect} :
      DefectAt b p d → DefectAt (.bin op a b) (.right op :: p) d

/-- A formula is sound when none of its positions holds a defect. -/
def Sound (e : Formula) : Prop := ∀ p d, ¬ e.DefectAt p d

/-- `e.LeftmostDefect m`: the path of `m` leads to the defect of `m` in `e`, and every other defect
of `e` lies to the right of it. -/
structure LeftmostDefect (e : Formula) (m : Mismatch) : Prop where
  defectAt : e.DefectAt m.frames m.defect
  leftmost : ∀ p d, e.DefectAt p d → p = m.frames ∨ PathBefore m.frames p

variable {e a b : Formula} {op : Binary} {p : List Frame} {d d' : Defect}

theorem defectAt_not_iff :
    (Formula.not a).DefectAt p d ↔ ∃ q, p = .negand :: q ∧ a.DefectAt q d := by
  constructor
  · intro h
    cases h with
    | here h => simp [defect?] at h
    | negand h => exact ⟨_, rfl, h⟩
  · rintro ⟨q, rfl, h⟩
    exact .negand h

theorem defectAt_bin_iff :
    (Formula.bin op a b).DefectAt p d ↔
      (∃ q, p = .left op :: q ∧ a.DefectAt q d) ∨ (∃ q, p = .right op :: q ∧ b.DefectAt q d) := by
  constructor
  · intro h
    cases h with
    | here h => simp [defect?] at h
    | left h => exact .inl ⟨_, rfl, h⟩
    | right h => exact .inr ⟨_, rfl, h⟩
  · rintro (⟨q, rfl, h⟩ | ⟨q, rfl, h⟩)
    · exact .left h
    · exact .right h

/-- A position holds at most one defect. -/
theorem DefectAt.unique (h : e.DefectAt p d) (h' : e.DefectAt p d') : d = d' := by
  induction h with
  | here hd =>
    cases h' with
    | here hd' => exact Option.some.inj (hd.symm.trans hd')
  | negand _ ih =>
    cases h' with
    | negand h' => exact ih h'
  | left _ ih =>
    cases h' with
    | left h' => exact ih h'
  | right _ ih =>
    cases h' with
    | right h' => exact ih h'

/-- The defect at the top of a formula is the formula itself. -/
theorem defectAt_nil_iff : e.DefectAt [] d ↔ e.defect? = some d := by
  constructor
  · intro h
    cases h with
    | here h => exact h
  · exact .here

/-! ## Soundness -/

@[simp] theorem sound_lit (v : Bool) : (Formula.lit v).Sound := by
  rintro p d (⟨⟨⟩⟩)

@[simp] theorem sound_var (x : String) : (Formula.var x).Sound := by
  rintro p d (⟨⟨⟩⟩)

@[simp] theorem sound_not : (Formula.not a).Sound ↔ a.Sound := by
  constructor
  · intro h q d hq
    exact h _ _ (.negand hq)
  · intro h p d hp
    rcases defectAt_not_iff.1 hp with ⟨q, -, hq⟩
    exact h q d hq

@[simp] theorem sound_bin : (Formula.bin op a b).Sound ↔ a.Sound ∧ b.Sound := by
  constructor
  · intro h
    exact ⟨fun q d hq => h _ _ (.left hq), fun q d hq => h _ _ (.right hq)⟩
  · rintro ⟨ha, hb⟩ p d hp
    rcases defectAt_bin_iff.1 hp with ⟨q, -, hq⟩ | ⟨q, -, hq⟩
    · exact ha q d hq
    · exact hb q d hq

/-- A formula that is itself a defect is not sound. -/
theorem not_sound_of_defect (h : e.defect? = some d) : ¬ e.Sound :=
  fun hs => hs [] d (.here h)

/-- The defect list of a formula holds exactly the defects at its positions. -/
theorem mem_defects_iff : d ∈ e.defects ↔ ∃ p, e.DefectAt p d := by
  induction e generalizing d with
  | not a ih =>
    simp only [defects, ih, defectAt_not_iff]
    constructor
    · rintro ⟨q, hq⟩
      exact ⟨_, q, rfl, hq⟩
    · rintro ⟨p, q, -, hq⟩
      exact ⟨q, hq⟩
  | bin op a b iha ihb =>
    simp only [defects, List.mem_append, iha, ihb, defectAt_bin_iff]
    constructor
    · rintro (⟨q, hq⟩ | ⟨q, hq⟩)
      · exact ⟨_, .inl ⟨q, rfl, hq⟩⟩
      · exact ⟨_, .inr ⟨q, rfl, hq⟩⟩
    · rintro ⟨p, ⟨q, -, hq⟩ | ⟨q, -, hq⟩⟩
      · exact .inl ⟨q, hq⟩
      · exact .inr ⟨q, hq⟩
  | _ =>
    -- a leaf holds a defect only at the top, and only when it is one
    constructor
    · intro h
      exact ⟨[], .here (by simpa [defects] using h)⟩
    · rintro ⟨p, ⟨h⟩⟩
      simpa [defects] using h

theorem sound_iff_defects_eq_nil : e.Sound ↔ e.defects = [] := by
  rw [List.eq_nil_iff_forall_not_mem]
  constructor
  · intro h d hd
    rcases mem_defects_iff.1 hd with ⟨p, hp⟩
    exact h p d hp
  · intro h p d hp
    exact h d (mem_defects_iff.2 ⟨p, hp⟩)

instance : DecidablePred Sound := fun _ => decidable_of_iff _ sound_iff_defects_eq_nil.symm

/-! ## The leftmost defect -/

namespace LeftmostDefect

variable {m m' : Mismatch}

/-- A formula that is itself a defect has that defect as its leftmost one, at the top. -/
theorem of_defect (h : e.defect? = some d) : e.LeftmostDefect ⟨[], d⟩ where
  defectAt := .here h
  leftmost := by
    intro p d' hp
    cases hp with
    | here => exact .inl rfl
    | negand => simp [defect?] at h
    | left => simp [defect?] at h
    | right => simp [defect?] at h

theorem within_negand (h : a.LeftmostDefect m) :
    (Formula.not a).LeftmostDefect (m.within .negand) where
  defectAt := .negand h.defectAt
  leftmost := by
    intro p d hp
    rcases defectAt_not_iff.1 hp with ⟨q, rfl, hq⟩
    rcases h.leftmost q d hq with rfl | hb
    · exact .inl rfl
    · exact .inr (.cons hb)

/-- A defect of the left operand lies to the left of every defect of the right one. -/
theorem within_left (h : a.LeftmostDefect m) :
    (Formula.bin op a b).LeftmostDefect (m.within (.left op)) where
  defectAt := .left h.defectAt
  leftmost := by
    intro p d hp
    rcases defectAt_bin_iff.1 hp with ⟨q, rfl, hq⟩ | ⟨q, rfl, -⟩
    · rcases h.leftmost q d hq with rfl | hb
      · exact .inl rfl
      · exact .inr (.cons hb)
    · exact .inr .split

/-- Below a sound left operand, the leftmost defect is the right operand's. -/
theorem within_right (ha : a.Sound) (h : b.LeftmostDefect m) :
    (Formula.bin op a b).LeftmostDefect (m.within (.right op)) where
  defectAt := .right h.defectAt
  leftmost := by
    intro p d hp
    rcases defectAt_bin_iff.1 hp with ⟨q, -, hq⟩ | ⟨q, rfl, hq⟩
    · exact absurd hq (ha q d)
    · rcases h.leftmost q d hq with rfl | hb
      · exact .inl rfl
      · exact .inr (.cons hb)

/-- A formula has at most one leftmost defect. -/
theorem unique (h : e.LeftmostDefect m) (h' : e.LeftmostDefect m') : m = m' := by
  -- neither path can lie to the left of the other, so they are the same path
  have hframes : m.frames = m'.frames := by
    rcases h.leftmost _ _ h'.defectAt with hp | hp
    · exact hp.symm
    · rcases h'.leftmost _ _ h.defectAt with hq | hq
      · exact hq
      · exact absurd hq hp.asymm
  have hdefect : m.defect = m'.defect := h.defectAt.unique (hframes ▸ h'.defectAt)
  cases m
  cases m'
  simp_all

end LeftmostDefect

/-! ## Evaluation -/

variable {σ : Valuation} {m : Mismatch} {v : Bool}

/-- A sound formula evaluates to its standard meaning. -/
theorem eval_of_sound (h : e.Sound) : e.eval σ = .ok (e.denote σ) := by
  induction e with
  | lit v => rfl
  | var x => rfl
  | not a ih => simp [eval, denote, ih (sound_not.1 h)]
  | bin op a b iha ihb =>
    rcases sound_bin.1 h with ⟨ha, hb⟩
    simp [eval, denote, iha ha, ihb hb]
  | _ => exact absurd h (not_sound_of_defect rfl)

/-- A formula that has a truth value is sound. -/
theorem sound_of_eval_eq_ok (h : e.eval σ = .ok v) : e.Sound := by
  induction e generalizing v with
  | lit w => exact sound_lit w
  | var x => exact sound_var x
  | not a ih =>
    cases ha : a.eval σ with
    | ok x => exact sound_not.2 (ih ha)
    | error m => simp [eval, ha] at h
  | bin op a b iha ihb =>
    cases ha : a.eval σ with
    | error m => simp [eval, ha] at h
    | ok x =>
      cases hb : b.eval σ with
      | error m => simp [eval, ha, hb] at h
      | ok y => exact sound_bin.2 ⟨iha ha, ihb hb⟩
  | _ => simp [eval] at h

/-- A failed evaluation stops at the leftmost defect. The induction follows `eval`: a negation
passes the failure of its operand up, and a binary node the failure of its left operand, or else,
once the left operand has a value and so is sound, the failure of its right one. -/
theorem leftmostDefect_of_eval_eq_error (h : e.eval σ = .error m) : e.LeftmostDefect m := by
  induction e generalizing m with
  | lit v => simp [eval] at h
  | var x => simp [eval] at h
  | dangling | absent | empty _ =>
    simp only [eval, Except.error.injEq] at h
    subst h
    exact .of_defect rfl
  | not a ih =>
    cases ha : a.eval σ with
    | ok x => simp [eval, ha] at h
    | error m' =>
      have hm : m'.within .negand = m := by simpa [eval, ha] using h
      subst hm
      exact (ih ha).within_negand
  | bin op a b iha ihb =>
    cases ha : a.eval σ with
    | error m' =>
      have hm : m'.within (.left op) = m := by simpa [eval, ha] using h
      subst hm
      exact (iha ha).within_left
    | ok x =>
      cases hb : b.eval σ with
      | error m' =>
        have hm : m'.within (.right op) = m := by simpa [eval, ha, hb] using h
        subst hm
        exact (ihb hb).within_right (sound_of_eval_eq_ok ha)
      | ok y => simp [eval, ha, hb] at h

/-- Evaluation fails exactly with the leftmost defect and the path that leads to it. -/
theorem eval_eq_error_iff : e.eval σ = .error m ↔ e.LeftmostDefect m := by
  constructor
  · exact leftmostDefect_of_eval_eq_error
  · intro h
    -- a formula with a defect has no value, and the failure it has is its leftmost defect
    cases he : e.eval σ with
    | ok v => exact absurd h.defectAt (sound_of_eval_eq_ok he _ _)
    | error m' => rw [(leftmostDefect_of_eval_eq_error he).unique h]

/-- Evaluation gives a truth value exactly for a sound formula, and the value is its meaning. -/
theorem eval_eq_ok_iff : e.eval σ = .ok v ↔ e.Sound ∧ v = e.denote σ := by
  constructor
  · intro h
    have hs := sound_of_eval_eq_ok h
    have hv : Except.ok (e.denote σ) = (.ok v : Except Mismatch Bool) :=
      (eval_of_sound hs).symm.trans h
    exact ⟨hs, (Except.ok.inj hv).symm⟩
  · rintro ⟨hs, rfl⟩
    exact eval_of_sound hs

/-! ## Asking for a truth value -/

theorem isTrue?_eq_ok_iff : e.isTrue? σ = .ok v ↔ e.eval σ = .ok v := by
  rw [isTrue?_eq_eval, except_mapError_eq_ok_iff]

theorem isTrue?_eq_error_iff {f : Failure} :
    e.isTrue? σ = .error f ↔ ∃ m, e.eval σ = .error m ∧ f = .noTruthValue m := by
  rw [isTrue?_eq_eval, except_mapError_eq_error_iff]

/-- Asking for a truth value fails exactly for a formula with a defect somewhere. -/
theorem exists_isTrue?_eq_error_iff : (∃ f, e.isTrue? σ = .error f) ↔ ¬ e.Sound := by
  constructor
  · rintro ⟨f, hf⟩ hs
    rw [isTrue?_eq_error_iff] at hf
    rcases hf with ⟨m, hm, -⟩
    rw [eval_of_sound hs] at hm
    cases hm
  · intro hs
    cases he : e.eval σ with
    | ok v => exact absurd (sound_of_eval_eq_ok he) hs
    | error m => exact ⟨_, isTrue?_eq_error_iff.2 ⟨m, he, rfl⟩⟩

theorem truthValue?_eq_isTrue? (h : e.isNull = false) : e.truthValue? σ = e.isTrue? σ := by
  rw [isTrue?, guarded_of_isNull_eq_false h]

/-- Asking for the truth value of a formula gives its standard meaning when no position of it holds
a defect. Otherwise it fails, whatever the values of the other operands, with the leftmost defect
and the operand path from the top down to it. Asked of a node, its own truth value agrees. -/
theorem isTrue_reports_leftmost_defect (σ : Valuation) (e : Formula) :
    (∀ v, e.isTrue? σ = .ok v ↔ e.Sound ∧ v = e.denote σ) ∧
      (∀ f, e.isTrue? σ = .error f ↔ ∃ m, f = .noTruthValue m ∧ e.LeftmostDefect m) ∧
      (e.isNull = false → e.truthValue? σ = e.isTrue? σ) := by
  refine ⟨fun v => ?_, fun f => ?_, truthValue?_eq_isTrue?⟩
  · rw [isTrue?_eq_ok_iff, eval_eq_ok_iff]
  · rw [isTrue?_eq_error_iff]
    constructor
    · rintro ⟨m, hm, rfl⟩
      exact ⟨m, rfl, eval_eq_error_iff.1 hm⟩
    · rintro ⟨m, rfl, hm⟩
      exact ⟨m, eval_eq_error_iff.2 hm, rfl⟩

example : (Formula.bin .and (.lit false) (.not .absent)).isTrue? (fun _ => true) =
    .error (.noTruthValue ⟨[.right .and, .negand], .absent⟩) :=
  rfl

end Formula

end Propositional
