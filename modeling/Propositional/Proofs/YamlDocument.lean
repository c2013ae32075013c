import Mathlib
import Propositional.Proofs.Evaluation

/-!
# YAML documents of formulas

A formula's YAML document is written by a walk of its own: each node checks all of its operands
for a null formula before it writes any of them, and a dangling reference is refused only when it
is itself written. This file shows that the walk still refuses exactly the formulas that have no
truth value, says which defect it reports, and reads the written documents back.

## Main definitions

* `Yaml.read`: a reader for block documents of Boolean scalars and single-key mappings of block
  sequences, the YAML the library writes. It is not a general YAML parser: it stands for one here,
  and it reads only the layout `Yaml.Node.render` writes. So "a written document reads back" is a
  fact about this reader and the library's own writer, which is itself a model of a YAML emitter
  at four spaces of indentation; it says nothing of any other YAML reader.
* `Formula.image`: the YAML value a formula stands for: a leaf is its truth value, and a node is a
  mapping from its kind's name to the values of its operands, in order.
* `Formula.marshalChecks`: the defects the writer checks for, in the order it meets them.

## Main statements

* `Yaml.read_render`: the reader gives back every value the library can write.
* `Formula.toYaml_eq`: the writer stops at the first failed check, and otherwise writes the image.
* `Formula.yaml_refuses_defects_and_reads_back`: the document fails exactly when evaluation does,
  with the first defect of the walk, and a written document reads back to the image.
-/

namespace Propositional

namespace Yaml

/-! ## Reading block documents -/

/-- Reads the Boolean scalar that ends a line. -/
def readScalar : List Char → Option (Bool × List Char)
  | 't' :: 'r' :: 'u' :: 'e' :: '\n' :: rest => some (true, rest)
  | 'f' :: 'a' :: 'l' :: 's' :: 'e' :: '\n' :: rest => some (false, rest)
  | _ => none

/-- Reads a mapping key, a word of letters, up to the colon that ends its line. -/
def readKey (cs : List Char) : Option (String × List Char) :=
  match cs.dropWhile Char.isAlpha with
  | ':' :: '\n' :: rest =>
    if (cs.takeWhile Char.isAlpha).isEmpty then none
    else some (String.ofList (cs.takeWhile Char.isAlpha), rest)
  | _ => none

/-- The start of a sequence item at column `col`. -/
def itemStart (col : Nat) : List Char := (indent col ++ "- ").toList

mutual

/-- Reads a value whose first line continues the current line. The items of a mapping's sequence
stand at column `col + 4`, and a mapping without items is no value. `fuel` bounds the nesting of
the calls. -/
def readBlock : Nat → Nat → List Char → Option (Node × List Char)
  | 0, _, _ => none
  | fuel + 1, col, cs =>
    match readKey cs with
    | some (key, rest) =>
      match readItems fuel (col + 4) rest with
      | some (n :: ns, rest') => some (.entry key (n :: ns), rest')
      | _ => none
    | none =>
      match readScalar cs with
      | some (b, rest) => some (.bool b, rest)
      | none => none

/-- Reads the items of a block sequence at column `col`, for as long as lines start with `- ` at
that column. -/
def readItems : Nat → Nat → List Char → Option (List Node × List Char)
  | 0, _, _ => none
  | fuel + 1, col, cs =>
    match cs.dropPrefix? (itemStart col) with
    | none => some ([], cs)
    | some rest =>
      match readBlock fuel col rest with
      | none => none
      | some (n, rest') =>
        match readItems fuel col rest' with
        | none => none
        | some (ns, rest'') => some (n :: ns, rest'')

end

/-- Reads a document: a single value that takes up the whole text. Every call consumes a
character, so one more unit of fuel than the text has characters is enough. -/
def read (s : String) : Option Node :=
  match readBlock (s.toList.length + 1) 0 s.toList with
  | some (n, []) => some n
  | _ => none

/-- The values the reader gives back: keys are nonempty words of letters, and every sequence has
an item. -/
inductive Node.Readable : Node → Prop
  | bool (b : Bool) : Node.Readable (.bool b)
  | entry {key : String} {items : List Node} : key.toList ≠ [] → (∀ c ∈ key.toList, c.isAlpha) →
      items ≠ [] → (∀ n ∈ items, Node.Readable n) → Node.Readable (.entry key items)

/-! ## Reading back what is written -/

theorem itemStart_eq (col : Nat) : itemStart col = List.replicate col ' ' ++ ['-', ' '] := by
  simp [itemStart, indent]

theorem dropPrefix?_itemStart_append (col : Nat) (rest : List Char) :
    (itemStart col ++ rest).dropPrefix? (itemStart col) = some rest :=
  List.dropPrefix?_append_of_beq rest (beq_self_eq_true _)

/-- A line with an item at one column does not start an item at a greater one. -/
theorem dropPrefix?_itemStart_of_lt {col col' : Nat} (h : col < col') (rest : List Char) :
    (itemStart col ++ rest).dropPrefix? (itemStart col') = none := by
  rw [itemStart_eq, itemStart_eq]
  induction col generalizing col' with
  | zero =>
    rcases Nat.exists_eq_add_of_lt h with ⟨k, rfl⟩
    simp [List.replicate_succ, List.dropPrefix?]
  | succ n ih =>
    rcases Nat.exists_eq_add_of_lt h with ⟨k, rfl⟩
    have hk : n < n + k + 1 := by omega
    simpa [List.replicate_succ, List.dropPrefix?, Nat.add_right_comm n 1 k] using ih hk

theorem readKey_scalar (b : Bool) (rest : List Char) :
    readKey ((scalar b ++ "\n").toList ++ rest) = none := by
  cases b <;> rfl

theorem readKey_key {key : String} (hne : key.toList ≠ []) (halpha : ∀ c ∈ key.toList, c.isAlpha)
    (rest : List Char) : readKey ((key ++ ":\n").toList ++ rest) = some (key, rest) := by
  have hcolon : Char.isAlpha ':' = false := by decide
  simp [readKey, List.takeWhile_append_of_pos halpha, List.dropWhile_append_of_pos halpha,
    hcolon, hne]

theorem toList_block_entry (col : Nat) (key : String) (items : List Node) :
    (Node.block col (.entry key items)).toList =
      (key ++ ":\n").toList ++ (Node.blockItems (col + 4) items).toList := by
  simp [Node.block]

theorem toList_blockItems_cons (col : Nat) (n : Node) (ns : List Node) :
    (Node.blockItems col (n :: ns)).toList =
      itemStart col ++ (n.block col).toList ++ (Node.blockItems col ns).toList := by
  simp [Node.blockItems, itemStart]

/-- After a sequence at column `col`, an item can start only at a column up to `col`. -/
theorem dropPrefix?_blockItems_append {col : Nat} (ns : List Node) {rest : List Char}
    (hrest : ∀ c, col ≤ c → rest.dropPrefix? (itemStart c) = none) {c : Nat} (hc : col < c) :
    ((Node.blockItems col ns).toList ++ rest).dropPrefix? (itemStart c) = none := by
  cases ns with
  | nil => simpa [Node.blockItems] using hrest c (Nat.le_of_lt hc)
  | cons n ns =>
    rw [toList_blockItems_cons, List.append_assoc, List.append_assoc]
    exact dropPrefix?_itemStart_of_lt hc _

/-- The reader reads back a written value, and a written sequence, when the text after it starts
no item at a deeper column. The induction is on the fuel: a sequence is read at the fuel of the
value that holds it, less one, and so are its items. -/
theorem read_written (fuel : Nat) :
    (∀ (col : Nat) (n : Node) (rest : List Char), n.Readable →
      (∀ c, col < c → rest.dropPrefix? (itemStart c) = none) →
      (n.block col).toList.length + rest.length < fuel →
      readBlock fuel col ((n.block col).toList ++ rest) = some (n, rest)) ∧
    (∀ (col : Nat) (ns : List Node) (rest : List Char), (∀ n ∈ ns, n.Readable) →
      (∀ c, col ≤ c → rest.dropPrefix? (itemStart c) = none) →
      (Node.blockItems col ns).toList.length + rest.length < fuel →
      readItems fuel col ((Node.blockItems col ns).toList ++ rest) = some (ns, rest)) := by
  induction fuel with
  | zero =>
    refine ⟨fun col n rest _ _ hfuel => ?_, fun col ns rest _ _ hfuel => ?_⟩ <;> omega
  | succ fuel ih =>
    rcases ih with ⟨ihBlock, ihItems⟩
    constructor
    · intro col n rest hn hrest hfuel
      cases hn with
      | bool b =>
        -- a scalar is no key, so it is read as a scalar
        simp only [Node.block]
        rw [readBlock, readKey_scalar]
        cases b <;> rfl
      | @entry key items hne halpha hitems hall =>
        -- the key ends its line, and the items follow four columns deeper
        rcases List.exists_cons_of_ne_nil hitems with ⟨m, ms, rfl⟩
        have hkeylen : 0 < (key ++ ":\n").toList.length := by simp
        rw [toList_block_entry] at hfuel ⊢
        rw [List.append_assoc, readBlock, readKey_key hne halpha]
        have hread := ihItems (col + 4) (m :: ms) rest hall
          (fun c hc => hrest c (by omega)) (by simp only [List.length_append] at hfuel; omega)
        simp [hread]
    · intro col ns rest hns hrest hfuel
      cases ns with
      | nil =>
        simp only [Node.blockItems, String.toList_empty, List.nil_append]
        rw [readItems, hrest col (Nat.le_refl col)]
      | cons n ns =>
        rw [toList_blockItems_cons] at hfuel ⊢
        simp only [List.length_append] at hfuel
        have hstart : 0 < (itemStart col).length := by simp [itemStart_eq]
        -- the item's value is followed by the remaining items, which start no deeper item
        have hvalue := ihBlock col n ((Node.blockItems col ns).toList ++ rest)
          (hns n List.mem_cons_self) (fun c hc => dropPrefix?_blockItems_append ns hrest hc)
          (by simp only [List.length_append]; omega)
        have hitems := ihItems col ns rest (fun m hm => hns m (List.mem_cons_of_mem n hm)) hrest
          (by omega)
        rw [List.append_assoc, List.append_assoc, readItems, dropPrefix?_itemStart_append,
          ← List.append_assoc]
        simp [hvalue, hitems]

/-- The reader gives back every value that it can represent. -/
theorem read_render {n : Node} (hn : n.Readable) : read n.render = some n := by
  have hread := (read_written ((n.block 0).toList.length + 1)).1 0 n [] hn
    (fun c _ => by cases c <;> simp [itemStart_eq, List.replicate_succ, List.dropPrefix?])
    (by simp)
  simp only [List.append_nil] at hread
  simp [read, Node.render, hread]

end Yaml

/-- The name of every kind of node is a nonempty word of letters, so it can stand as a key. -/
theorem NodeKind.name_isWord (k : NodeKind) :
    k.name.toList ≠ [] ∧ ∀ c ∈ k.name.toList, c.isAlpha := by
  cases k with
  | binary op =>
    cases op <;> simp [NodeKind.name, Binary.name, Char.isAlpha, Char.isUpper, Char.isLower]
  | _ => simp [NodeKind.name, Char.isAlpha, Char.isUpper, Char.isLower]

namespace Formula

variable {σ : Valuation} {e : Formula}

/-! ## What the writer checks -/

/-- The YAML value a formula stands for: a leaf is its truth value, and a node is a mapping from
its kind's name to the values of its operands, in order. A defect stands for no value; it is given
`false` here, and the writer never writes it. -/
def image (σ : Valuation) : Formula → Yaml.Node
  | .lit v => .bool v
  | .var x => .bool (σ x)
  | .not a => .entry NodeKind.not.name [a.image σ]
  | .bin op a b => .entry (NodeKind.binary op).name [a.image σ, b.image σ]
  | _ => .bool false

/-- The defects the writer checks for, in the order it meets them. A node checks each of its
operands for a null formula, left to right, before it writes any of them; a dangling reference
is met when it is itself written. -/
def marshalChecks : Formula → List Defect
  | .dangling => [.dangling]
  | .not a => a.nullDefect?.toList ++ a.marshalChecks
  | .bin _ a b =>
    a.nullDefect?.toList ++ b.nullDefect?.toList ++ (a.marshalChecks ++ b.marshalChecks)
  | _ => []

/-- The checks met when a formula is written as an operand: whether it is null, then its own. -/
def operandChecks (e : Formula) : List Defect := e.nullDefect?.toList ++ e.marshalChecks

@[simp] theorem nullDefect?_not (a : Formula) : (Formula.not a).nullDefect? = none := rfl

@[simp] theorem nullDefect?_bin (op : Binary) (a b : Formula) :
    (Formula.bin op a b).nullDefect? = none := rfl

theorem nullDefect?_eq_none (h : e.isNull = false) : e.nullDefect? = none := by
  cases e <;> simp_all [isNull, nullDefect?]

theorem operandChecks_of_isNull_eq_false (h : e.isNull = false) :
    e.operandChecks = e.marshalChecks := by
  simp [operandChecks, nullDefect?_eq_none h]

/-- The writer stops at the first check that fails, and otherwise writes the image. -/
theorem toYaml_eq (σ : Valuation) (e : Formula) :
    e.toYaml σ = match e.operandChecks.head? with
      | some d => .error d
      | none => .ok (e.image σ) := by
  induction e with
  | not a ih =>
    -- the operand is checked for null before anything is written
    cases hn : a.nullDefect? with
    | some d => simp [toYaml, operandChecks, marshalChecks, hn]
    | none =>
      simp only [operandChecks, hn, Option.toList_none, List.nil_append] at ih
      cases hc : a.marshalChecks.head? <;>
        simp [toYaml, operandChecks, marshalChecks, hn, ih, hc, image, NodeKind.name]
  | bin op a b iha ihb =>
    cases hna : a.nullDefect? with
    | some d => simp [toYaml, operandChecks, marshalChecks, hna]
    | none =>
      cases hnb : b.nullDefect? with
      | some d => simp [toYaml, operandChecks, marshalChecks, hna, hnb]
      | none =>
        simp only [operandChecks, hna, hnb, Option.toList_none, List.nil_append] at iha ihb
        cases hca : a.marshalChecks.head? <;> cases hcb : b.marshalChecks.head? <;>
          simp [toYaml, operandChecks, marshalChecks, hna, hnb, iha, ihb, hca, hcb, image,
            NodeKind.name, List.head?_append]
  | _ => rfl

open List in
/-- The writer checks for every defect of a formula, once each, only in another order than
evaluation meets them: a node's null operands come before anything below them. -/
theorem operandChecks_perm_defects (e : Formula) : e.operandChecks.Perm e.defects := by
  induction e with
  | not a ih => simpa [operandChecks, marshalChecks, defects] using ih
  | bin op a b iha ihb =>
    -- move the right operand's null check behind the left operand's own checks
    calc (Formula.bin op a b).operandChecks
        = a.nullDefect?.toList ++ ((b.nullDefect?.toList ++ a.marshalChecks) ++ b.marshalChecks) := by
          simp [operandChecks, marshalChecks]
      _ ~ a.nullDefect?.toList ++ ((a.marshalChecks ++ b.nullDefect?.toList) ++ b.marshalChecks) :=
          (List.perm_append_comm.append_right _).append_left _
      _ = a.operandChecks ++ b.operandChecks := by simp [operandChecks]
      _ ~ (Formula.bin op a b).defects := iha.append ihb
  | _ => simp [operandChecks, marshalChecks, nullDefect?, defects, defect?]

theorem operandChecks_eq_nil_iff : e.operandChecks = [] ↔ e.Sound := by
  rw [sound_iff_defects_eq_nil]
  constructor
  · intro h
    exact (h ▸ e.operandChecks_perm_defects).nil_eq.symm
  · intro h
    exact List.perm_nil.1 (h ▸ e.operandChecks_perm_defects)

/-- Every sound formula stands for a value the reader reads back. -/
theorem readable_image (h : e.Sound) : (e.image σ).Readable := by
  induction e with
  | lit v => exact .bool v
  | var x => exact .bool (σ x)
  | not a ih =>
    rcases NodeKind.name_isWord .not with ⟨hne, halpha⟩
    refine .entry hne halpha (by simp) ?_
    simpa using ih (sound_not.1 h)
  | bin op a b iha ihb =>
    rcases sound_bin.1 h with ⟨ha, hb⟩
    rcases NodeKind.name_isWord (.binary op) with ⟨hne, halpha⟩
    refine .entry hne halpha (by simp) ?_
    simpa using ⟨iha ha, ihb hb⟩
  | _ => exact absurd h (not_sound_of_defect rfl)

/-! ## Documents -/

theorem yaml?_of_isNull (h : e.isNull = true) : e.yaml? σ = .ok Yaml.nullDocument := by
  simp [yaml?_eq_yamlDocument, yamlDocument, h, Except.mapError]

theorem yaml?_eq (h : e.isNull = false) :
    e.yaml? σ = match e.marshalChecks.head? with
      | some d => .error (.noTruthValue ⟨[], d⟩)
      | none => .ok (e.image σ).render := by
  cases hc : e.marshalChecks.head? <;>
    simp [yaml?_eq_yamlDocument, yamlDocument, h, toYaml_eq, operandChecks_of_isNull_eq_false h,
      hc, Except.mapError]

/-- The YAML document of a formula. A null formula is the document `null`. The document of any
other formula fails exactly when the formula has no truth value: the writer checks for the same
defects as evaluation, and reports, unwrapped, the first one its own walk meets. A document that
is written is the image of the formula, four spaces deeper at each level, and reading it gives
the image back. -/
theorem yaml_refuses_defects_and_reads_back (σ : Valuation) (e : Formula) :
    (e.isNull = true → e.yaml? σ = .ok Yaml.nullDocument) ∧
    (e.isNull = false →
      e.marshalChecks.Perm e.defects ∧
      ((∃ f, e.yaml? σ = .error f) ↔ ∃ f, e.isTrue? σ = .error f) ∧
      ((∃ f, e.yaml? σ = .error f) ↔ ¬ e.Sound) ∧
      (∀ f, e.yaml? σ = .error f ↔
        ∃ d, e.marshalChecks.head? = some d ∧ f = .noTruthValue ⟨[], d⟩) ∧
      (∀ s, e.yaml? σ = .ok s → s = (e.image σ).render ∧ Yaml.read s = some (e.image σ))) := by
  refine ⟨yaml?_of_isNull, fun hn => ?_⟩
  have hchecks : e.operandChecks = e.marshalChecks := operandChecks_of_isNull_eq_false hn
  have herror : ∀ f, e.yaml? σ = .error f ↔
      ∃ d, e.marshalChecks.head? = some d ∧ f = .noTruthValue ⟨[], d⟩ := by
    intro f
    rw [yaml?_eq hn]
    cases e.marshalChecks.head? <;> simp [eq_comm]
  -- the document fails when some check fails, that is when the formula is not sound
  have hfails : (∃ f, e.yaml? σ = .error f) ↔ ¬ e.Sound := by
    simp only [herror, ← operandChecks_eq_nil_iff, hchecks]
    cases e.marshalChecks <;> simp
  refine ⟨hchecks ▸ e.operandChecks_perm_defects, hfails.trans exists_isTrue?_eq_error_iff.symm,
    hfails, herror, ?_⟩
  intro s hs
  rw [yaml?_eq hn] at hs
  cases hc : e.marshalChecks.head? with
  | some d => simp [hc] at hs
  | none =>
    simp only [hc, Except.ok.injEq] at hs
    subst hs
    have hsound : e.Sound := by
      rw [← operandChecks_eq_nil_iff, hchecks]
      exact List.head?_eq_none_iff.1 hc
    exact ⟨rfl, Yaml.read_render (readable_image hsound)⟩

/-- A conjunction with an absent formula and an empty disjunction below its top is not empty
itself, so its document follows the rules of every other formula's. -/
theorem yaml_of_formula_with_defects_below_top :
    let σ : Valuation := fun _ => true
    let e : Formula := .bin .and (.not .absent) (.empty (.binary .or))
    e.isNull = false ∧ e.marshalChecks.Perm e.defects ∧
      ((∃ f, e.yaml? σ = .error f) ↔ ∃ f, e.isTrue? σ = .error f) ∧
      ((∃ f, e.yaml? σ = .error f) ↔ ¬ e.Sound) ∧
      (∀ f, e.yaml? σ = .error f ↔
        ∃ d, e.marshalChecks.head? = some d ∧ f = .noTruthValue ⟨[], d⟩) ∧
      (∀ s, e.yaml? σ = .ok s → s = (e.image σ).render ∧ Yaml.read s = some (e.image σ)) := by
  intro σ e
  have hn : e.isNull = false := rfl
  exact ⟨hn, (yaml_refuses_defects_and_reads_back σ e).2 hn⟩

/- The writer looks at the operands of the top node first, so it reports the empty disjunction,
where evaluation reports the absent formula below the negation. -/

example : (Formula.bin .and (.not .absent) (.empty (.binary .or))).yaml? (fun _ => true) =
    .error (.noTruthValue ⟨[], .empty (.binary .or)⟩) :=
  rfl

end Formula

end Propositional
