import Propositional.Proofs.EmptyReceiver

/-!
# The text of a formula is unambiguous

The text of a formula names each node followed by its operands in parentheses, shows a variable
by its current value, a dangling reference as `Ref(<nil>)`, and every empty operand, of whatever
kind, as `<nil>`. So the text loses exactly two things: which variable a value came from, and the
kind of an empty node. This file shows that it loses nothing else: two formulas have the same text
exactly when they show the same formula (`Formula.shown`), and a reader recovers that formula from
the text.

The text is read one piece at a time. Each node opens with a word and a parenthesis, and each leaf
is a single word; no two of these pieces begin with the same character, so the piece a text starts
with is never in doubt. Parentheses and the separator `, ` then close every node, so each formula's
text ends where the reader stops, whatever follows it.

## Main definitions

* `Formula.shown`: the formula a text shows.
* `Opening`: the pieces a formula's text begins with.
* `Formula.read`: the reader.

## Main statements

* `Formula.read_render`: reading the text of a formula gives the formula it shows.
* `text_is_unambiguous`.
-/

namespace Propositional

namespace Formula

/-- The formula the text of a formula shows: a variable as its current value, and every empty
formula, of whatever kind, as the absent one. -/
def shown (σ : Valuation) : Formula → Formula
  | .var x => .lit (σ x)
  | .empty _ => .absent
  | .not a => .not (a.shown σ)
  | .bin op a b => .bin op (a.shown σ) (b.shown σ)
  | f => f

variable {σ : Valuation}

/-- The text of a formula is the text of the formula it shows. -/
theorem render_shown (e : Formula) : (e.shown σ).render σ = e.render σ := by
  induction e with
  | not a ih => simp [shown, render, ih]
  | bin op a b iha ihb => simp [shown, render, iha, ihb]
  | _ => rfl

end Formula

/-! ## Reading texts -/

/-- The pieces a formula's text begins with: a whole leaf, or the opening of a node. -/
inductive Opening where
  | lit (b : Bool)
  | nil
  | dangling
  | not
  | bin (op : Binary)
deriving DecidableEq, Repr

namespace Opening

/-- The text of a piece. -/
def text : Opening → String
  | .lit b => Formula.truthText b
  | .nil => "<nil>"
  | .dangling => "Ref(<nil>)"
  | .not => "Not("
  | .bin op => op.name ++ "("

/-- The piece whose text begins with the given character; no two pieces begin with the same one. -/
def startingWith : Char → Option Opening
  | 'T' => some (.lit true)
  | 'F' => some (.lit false)
  | '<' => some .nil
  | 'R' => some .dangling
  | 'N' => some .not
  | 'A' => some (.bin .and)
  | 'O' => some (.bin .or)
  | 'C' => some (.bin .conditional)
  | 'B' => some (.bin .biconditional)
  | _ => none

/-- The piece a text begins with, and the text after it: the first character says which piece it
must be, and the rest of the piece must follow. -/
def read : List Char → Option (Opening × List Char)
  | [] => none
  | c :: cs => (startingWith c).bind fun o => ((c :: cs).dropPrefix? o.text.toList).map (o, ·)

/-- The piece a text begins with is found whatever follows it. -/
theorem read_text_append (o : Opening) (rest : List Char) :
    read (o.text.toList ++ rest) = some (o, rest) := by
  have hself : (o.text.toList ++ rest).dropPrefix? o.text.toList = some rest :=
    List.dropPrefix?_append_of_beq rest (beq_self_eq_true _)
  obtain ⟨c, tail, htext, hc⟩ : ∃ c tail, o.text.toList = c :: tail ∧ startingWith c = some o := by
    rcases o with (_ | _) | _ | _ | _ | (_ | _ | _ | _) <;> exact ⟨_, _, rfl, rfl⟩
  simp only [htext, List.cons_append] at hself ⊢
  simp [read, hc, htext, hself]

theorem length_text_pos (o : Opening) : 0 < o.text.toList.length := by
  rcases o with (_ | _) | _ | _ | _ | (_ | _ | _ | _) <;> decide

end Opening

namespace Formula

/-- Reads the formula a text begins with, and the text after it. `fuel` bounds the nesting of the
calls; every call reads at least one character. -/
def readShown : Nat → List Char → Option (Formula × List Char)
  | 0, _ => none
  | fuel + 1, cs =>
    match Opening.read cs with
    | some (.lit b, rest) => some (.lit b, rest)
    | some (.nil, rest) => some (.absent, rest)
    | some (.dangling, rest) => some (.dangling, rest)
    | some (.not, rest) =>
      match readShown fuel rest with
      | some (a, ')' :: rest') => some (.not a, rest')
      | _ => none
    | some (.bin op, rest) =>
      match readShown fuel rest with
      | some (a, ',' :: ' ' :: rest') =>
        match readShown fuel rest' with
        | some (b, ')' :: rest'') => some (.bin op a b, rest'')
        | _ => none
      | _ => none
    | none => none

/-- Reads a whole text as the formula it shows. -/
def read (s : String) : Option Formula :=
  match readShown (s.toList.length + 1) s.toList with
  | some (f, []) => some f
  | _ => none

variable {σ : Valuation}

/-- The text of a formula as its opening piece followed by the texts of its operands. -/
theorem toList_render_not (a : Formula) :
    ((Formula.not a).render σ).toList = Opening.not.text.toList ++ (a.render σ).toList ++ [')'] := by
  simp only [render, String.toList_append]
  rfl

theorem toList_render_bin (op : Binary) (a b : Formula) :
    ((Formula.bin op a b).render σ).toList =
      (Opening.bin op).text.toList ++ (a.render σ).toList ++ [',', ' '] ++ (b.render σ).toList ++
        [')'] := by
  simp only [render, Opening.text, String.toList_append, List.append_assoc]
  rfl

/-- The reader reads the text of a formula back as the formula it shows, whatever text follows it,
given one more unit of fuel than the text has characters. The induction is on the formula; an
operand is read with the fuel of its node, less one. -/
theorem readShown_render (e : Formula) (fuel : Nat) (rest : List Char)
    (hfuel : (e.render σ).toList.length < fuel) :
    readShown fuel ((e.render σ).toList ++ rest) = some (e.shown σ, rest) := by
  induction e generalizing fuel rest with
  | lit v =>
    obtain ⟨fuel, rfl⟩ : ∃ n, fuel = n + 1 := ⟨fuel - 1, by omega⟩
    show readShown (fuel + 1) ((Opening.lit v).text.toList ++ rest) = _
    rw [readShown, Opening.read_text_append]
    rfl
  | var x =>
    obtain ⟨fuel, rfl⟩ : ∃ n, fuel = n + 1 := ⟨fuel - 1, by omega⟩
    show readShown (fuel + 1) ((Opening.lit (σ x)).text.toList ++ rest) = _
    rw [readShown, Opening.read_text_append]
    rfl
  | dangling =>
    obtain ⟨fuel, rfl⟩ : ∃ n, fuel = n + 1 := ⟨fuel - 1, by omega⟩
    show readShown (fuel + 1) (Opening.dangling.text.toList ++ rest) = _
    rw [readShown, Opening.read_text_append]
    rfl
  | absent | empty _ =>
    obtain ⟨fuel, rfl⟩ : ∃ n, fuel = n + 1 := ⟨fuel - 1, by omega⟩
    show readShown (fuel + 1) (Opening.nil.text.toList ++ rest) = _
    rw [readShown, Opening.read_text_append]
    rfl
  | not a ih =>
    rw [toList_render_not] at hfuel ⊢
    simp only [List.length_append] at hfuel
    have hopen := Opening.not.length_text_pos
    obtain ⟨fuel, rfl⟩ : ∃ n, fuel = n + 1 := ⟨fuel - 1, by omega⟩
    -- the operand is read up to the closing parenthesis
    have ha := ih fuel (')' :: rest) (by simp at hfuel ⊢; omega)
    rw [List.append_assoc, List.append_assoc, readShown, Opening.read_text_append]
    simp [ha, shown]
  | bin op a b iha ihb =>
    rw [toList_render_bin] at hfuel ⊢
    simp only [List.length_append] at hfuel
    have hopen := (Opening.bin op).length_text_pos
    obtain ⟨fuel, rfl⟩ : ∃ n, fuel = n + 1 := ⟨fuel - 1, by omega⟩
    -- the left operand is read up to the separator, the right one up to the parenthesis
    have ha := iha fuel (',' :: ' ' :: ((b.render σ).toList ++ ')' :: rest))
      (by simp at hfuel ⊢; omega)
    have hb := ihb fuel (')' :: rest) (by simp at hfuel ⊢; omega)
    rw [List.append_assoc, List.append_assoc, List.append_assoc, List.append_assoc, readShown,
      Opening.read_text_append]
    simp [ha, hb, shown]

/-- Reading the text of a formula gives the formula it shows. -/
theorem read_render (e : Formula) : read (e.render σ) = some (e.shown σ) := by
  have h := readShown_render e ((e.render σ).toList.length + 1) []
    (Nat.lt_succ_self (e.render σ).toList.length)
  rw [List.append_nil] at h
  simp [read, h]

/-- Two formulas have the same text exactly when they show the same formula. -/
theorem render_eq_render_iff {e₁ e₂ : Formula} :
    e₁.render σ = e₂.render σ ↔ e₁.shown σ = e₂.shown σ := by
  constructor
  · -- the reader gives back what each text shows
    intro h
    have h₁ : read (e₁.render σ) = some (e₁.shown σ) := read_render e₁
    have h₂ : read (e₂.render σ) = some (e₂.shown σ) := read_render e₂
    rw [h, h₂] at h₁
    exact (Option.some.inj h₁).symm
  · intro h
    rw [← render_shown e₁, ← render_shown e₂, h]

end Formula

open Formula in
/-- The text of a formula is unambiguous up to the values of its variables and the kinds of its
empty operands. Two formulas whose tops are not empty have the same text exactly when they show the
same formula: the same nodes, with each variable replaced by its current value and each empty
operand, of whatever kind, by a single mark. And the reader recovers that formula from every text
a formula has. -/
theorem text_is_unambiguous (σ : Valuation) :
    (∀ e₁ e₂ : Formula, e₁.isNull = false → e₂.isNull = false →
      (e₁.text? σ = e₂.text? σ ↔ e₁.shown σ = e₂.shown σ)) ∧
    (∀ (e : Formula) (s : String), e.text? σ = .ok s → read s = some (e.shown σ)) := by
  refine ⟨fun e₁ e₂ h₁ h₂ => ?_, fun e s h => ?_⟩
  · rw [text?_of_isNull_eq_false h₁, text?_of_isNull_eq_false h₂, Except.ok.injEq]
    exact render_eq_render_iff
  · -- a formula that has a text is not empty, and its text is its rendering
    cases hn : e.isNull
    · rw [text?_of_isNull_eq_false hn, Except.ok.injEq] at h
      rw [← h]
      exact read_render e
    · rw [text?_of_isNull hn] at h
      cases h

/-- A disjunction of a variable and an empty negation has the text of the disjunction of the
variable's value and the absent formula, and that text reads back as the latter. -/
theorem text_with_variable_and_empty_operand_reads_back :
    let σ : Valuation := fun _ => true
    let e₁ : Formula := .bin .or (.var "p") (.empty .not)
    let e₂ : Formula := .bin .or (.lit true) .absent
    e₁.isNull = false ∧ e₂.isNull = false ∧
      (e₁.text? σ = e₂.text? σ ↔ e₁.shown σ = e₂.shown σ) ∧
      e₁.text? σ = .ok "Or(True, <nil>)" ∧ Formula.read "Or(True, <nil>)" = some (e₁.shown σ) := by
  intro σ e₁ e₂
  have h₁ : e₁.isNull = false := rfl
  have h₂ : e₂.isNull = false := rfl
  have htext : e₁.text? σ = .ok "Or(True, <nil>)" := rfl
  exact ⟨h₁, h₂, (text_is_unambiguous σ).1 e₁ e₂ h₁ h₂, htext,
    (text_is_unambiguous σ).2 e₁ _ htext⟩

/- The text does not tell a variable from its value, nor one kind of empty operand from another. -/
example : (Formula.bin .or (.var "p") (.empty .not)).render (fun _ => true) =
    (Formula.bin .or (.lit true) .absent).render (fun _ => true) := by
  decide

end Propositional
