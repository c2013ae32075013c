import Propositional.Formula.Methods
import Propositional.Store
import Propositional.Term
import Propositional.TruthTable

/-!
# Queries

A `Query` asks one question about the formula a term describes, or about the truth tables of
templates: its text, its truth value, its operands, a transformation of it, its YAML document, a table, or
whether two templates are equivalent. `Query.answer` answers it against a `Workspace`, the
variables and stored formulas at hand.

Queries differ in how they treat an empty formula. Evaluation in `isTrue` and in tables reports
an empty formula as a formula without truth value, and a YAML document of an empty formula is
`null`. The other queries look into the formula itself and fail with `emptyReceiver`; the one
exception is the operand list of an empty reference, which is empty, because a reference has no
operands whatever it points at.
-/

namespace Propositional

/-- The variables, and the named formulas that queries refer to, most recently stored first. -/
structure Workspace where
  store : Store
  formulas : List (String × Formula)
deriving Repr

namespace Workspace

/-- A workspace with the given variables and no stored formulas. -/
def ofStore (s : Store) : Workspace := ⟨s, []⟩

/-- The valuation of the workspace's variables. -/
def valuation (w : Workspace) : Valuation := w.store.value

/-- Stores a formula under a name, in place of any formula stored under it before. -/
def define (w : Workspace) (name : String) (f : Formula) : Workspace :=
  { w with formulas := (name, f) :: w.formulas }

/-- Sets a variable. -/
def assign (w : Workspace) (name : String) (v : Bool) : Workspace :=
  { w with store := w.store.set name v }

/-- What terms may refer to in the workspace, with the given placeholders. -/
def bindings (w : Workspace) (param : Param → Option Formula) : Bindings :=
  ⟨w.store.contains, fun x => w.formulas.lookup x, param⟩

/-- Builds a term in the workspace, without placeholders. -/
def build (w : Workspace) (t : Term) : Except Failure Formula :=
  t.build (w.bindings fun _ => none)

/-- Builds a template over one placeholder, which stands for the given truth value. -/
def instantiate₁ (w : Workspace) (t : Term) (a : Bool) : Except Failure Formula :=
  t.build (w.bindings fun | .a => some (.lit a) | .b => none)

/-- Builds a template over two placeholders, which stand for the given truth values. -/
def instantiate₂ (w : Workspace) (t : Term) (a b : Bool) : Except Failure Formula :=
  t.build (w.bindings fun | .a => some (.lit a) | .b => some (.lit b))

end Workspace

/-- A question about formulas. `truthValue` asks a formula itself for its truth value, and
`isTrue` asks for the truth value of a formula that may be empty. -/
inductive Query where
  | text (t : Term)
  | truthValue (t : Term)
  | isTrue (t : Term)
  | operands (t : Term)
  | canDropDoubleNegation (t : Term)
  | byRule (r : Rule) (t : Term)
  | yaml (t : Term)
  | unaryTable (template : Term)
  | table (template : Term)
  | equivalent (first second : Term)
deriving Repr

/-- An answer. A transformation is answered with its result and, unless the result is empty, its
text; the variables are listed in order of creation. -/
inductive Reply where
  | text (s : String)
  | truth (b : Bool)
  | operands (fs : List Formula)
  | transformed (f : Formula) (shown : Option String)
  | document (yaml : String)
  | unaryRows (rows : List UnaryRow)
  | rows (rows : List Row)
  | variables (vs : List (String × Bool))
  | defined (name : String) (f : Formula)
deriving Repr

/-- The reply to a transformation: the result, and its text unless the result is empty, which is
not asked for one. -/
def Reply.ofTransform (σ : Valuation) (g : Formula) : Except Failure Reply := do
  let shown ← if g.isNull then pure none else some <$> g.text? σ
  pure (.transformed g shown)

/-- Answers a query in a workspace. -/
def Query.answer (w : Workspace) : Query → Except Failure Reply
  | .text t => do
    let f ← w.build t
    return .text (← f.text? w.valuation)
  | .truthValue t => do
    let f ← w.build t
    return .truth (← f.truthValue? w.valuation)
  | .isTrue t => do
    let f ← w.build t
    return .truth (← f.isTrue? w.valuation)
  | .operands t => do
    let f ← w.build t
    return .operands (← f.operands?)
  | .canDropDoubleNegation t => do
    let f ← w.build t
    return .truth (← f.canDropDoubleNegation?)
  | .byRule r t => do
    let f ← w.build t
    let g ← f.transform? w.valuation r
    Reply.ofTransform w.valuation g
  | .yaml t => do
    let f ← w.build t
    return .document (← f.yaml? w.valuation)
  | .unaryTable t => do
    return .unaryRows (← TruthTable.unary w.valuation (w.instantiate₁ t))
  | .table t => do
    return .rows (← TruthTable.binary w.valuation (w.instantiate₂ t))
  | .equivalent s t => do
    return .truth (← TruthTable.equivalent w.valuation (w.instantiate₂ s) (w.instantiate₂ t))

end Propositional
