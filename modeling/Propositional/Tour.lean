import Propositional.Log.Record
import Propositional.Query

/-!
# A guided tour

`Tour.transcript` is what the tour of the library prints. It takes the formula
`And(Or(True, False), Not(False))` and shows its truth value and YAML document, then the truth
tables of the five connectives, then each transformation rule on literal operands, after checking with
`TruthTable.equivalent` that the rule keeps the truth table, and last the removal of a double
negation from the formula.

Everything is computed by the library. A step that fails ends the tour: the failure is logged as a
JSON record on the error stream and the exit code is 1. A transformation that changed a truth table would
be logged as a warning.
-/

namespace Propositional.Tour

/-- What a program run leaves behind: its two output streams and its exit code. -/
structure Transcript where
  stdout : String
  stderr : String
  exitCode : Nat
deriving DecidableEq, Repr

/-- The text one step of the tour prints, and the warnings it logs. -/
structure Output where
  text : String
  warnings : List Log.Record
deriving Repr

/-- The tour's log: JSON records of level `INFO` and above. -/
def log (records : List Log.Record) : String :=
  Log.write .json .info records

/-- Runs the steps in order and stops at the first that fails. -/
def play : List (Except String Output) → Transcript
  | [] => ⟨"", "", 0⟩
  | .ok o :: rest =>
    let t := play rest
    { t with stdout := o.text ++ t.stdout, stderr := log o.warnings ++ t.stderr }
  | .error e :: _ => ⟨"", log [⟨.error, "failed to run demo", [("error", e)]⟩], 1⟩

/-- The tour's variables: there are none, so every formula is built from literals. -/
def valuation : Valuation := fun _ => false

/-- The formula of the tour. -/
def formula : Formula := .bin .and (.bin .or (.lit true) (.lit false)) (.not (.lit false))

/-- The report of a failure in a step about a formula. -/
def report (what : String) : Failure → String
  | f => what ++ ": " ++ (f.message.getD "")

/-- A truth value as the tour prints it. -/
def truthWord (b : Bool) : String := if b then "true" else "false"

/-- Text padded with blanks on the right to at least five columns. -/
def pad (s : String) : String := s ++ String.ofList (List.replicate (5 - s.length) ' ')

/-- The formula and its truth value. -/
def truthStep : Except String Output :=
  match formula.eval valuation with
  | .ok v => .ok ⟨formula.render valuation ++ " = " ++ truthWord v ++ "\n\n", []⟩
  | .error m =>
    .error (report ("failed to evaluate " ++ formula.render valuation) (.noTruthValue m))

/-- The YAML document of the formula. -/
def yamlStep : Except String Output :=
  match formula.yamlDocument valuation with
  | .ok d => .ok ⟨d ++ "\n", []⟩
  | .error d =>
    .error (report ("failed to dump " ++ formula.render valuation) (.noTruthValue ⟨[], d⟩))

/-- The truth table of negation. -/
def negationStep : Except String Output :=
  match TruthTable.unary valuation (fun a => .ok (.not (.lit a))) with
  | .ok rows =>
    .ok ⟨"Not\n" ++ String.join (rows.map fun r =>
      "  " ++ pad (Formula.truthText r.a) ++ " | " ++ Formula.truthText r.value ++ "\n"), []⟩
  | .error f => .error (report "failed to build truth table for Not" f)

/-- The family of a binary connective on literal operands. -/
def family (op : Binary) (a b : Bool) : Except Failure Formula := .ok (.bin op (.lit a) (.lit b))

/-- The truth table of a binary connective. -/
def connectiveStep (op : Binary) : Except String Output :=
  match TruthTable.binary valuation (family op) with
  | .ok rows =>
    .ok ⟨op.name ++ "\n" ++ "\n".intercalate (rows.map fun r =>
      "  " ++ pad (Formula.truthText r.a) ++ " " ++ pad (Formula.truthText r.b) ++ " | " ++
        Formula.truthText r.value) ++ "\n", []⟩
  | .error f => .error (report ("failed to build truth table for " ++ op.name) f)

/-- The transformations the tour shows: a title, the connective transformed and the rule. -/
def laws : List (String × Binary × Rule) :=
  [("De Morgan (Or)", .or, .deMorgan), ("De Morgan (And)", .and, .deMorgan),
    ("conditional to disjunction", .conditional, .disjunction),
    ("biconditional to conditionals", .biconditional, .conditionals)]

/-- The text of a formula that may have failed to be built, as the tour prints it. -/
def shown : Except Failure Formula → String
  | .ok f => f.render valuation
  | .error _ => "<nil>"

/-- A transformation of a connective on the operands `True` and `False`, after the check that it keeps
the truth table. -/
def lawStep (title : String) (op : Binary) (r : Rule) : Except String Output :=
  let transformed := fun a b => (family op a b).bind (Term.applyRule r)
  match TruthTable.equivalent valuation (family op) transformed with
  | .ok same =>
    .ok ⟨title ++ ": " ++ shown (family op true false) ++ " => " ++
        shown (transformed true false) ++ "\n",
      if same then [] else [⟨.warn, "rewrite changed the truth table", [("rule", title)]⟩]⟩
  | .error f => .error (report ("failed to compare " ++ title) f)

/-- The removal of the double negation from the negated negation of the formula. -/
def doubleNegationStep : Except String Output :=
  let doubled := Formula.not (.not formula)
  match doubled.transform? valuation .doubleNegation with
  | .ok g =>
    .ok ⟨"double negation: " ++ doubled.render valuation ++ " => " ++ g.render valuation ++ "\n",
      []⟩
  | .error f => .error (report "failed to remove double negation" f)

/-- The steps of the tour, in order. -/
def steps : List (Except String Output) :=
  [truthStep, yamlStep, negationStep] ++
    [Binary.and, .or, .conditional, .biconditional].map connectiveStep ++
    [.ok ⟨"\n", []⟩] ++ laws.map (fun (t, op, r) => lawStep t op r) ++
    [doubleNegationStep]

/-- What the tour prints. -/
def transcript : Transcript := play steps

end Propositional.Tour
