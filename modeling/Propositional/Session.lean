import Propositional.Query

/-!
# Sessions

A session is a sequence of steps over one workspace. A step asks a query, sets a variable, or
stores the formula of a term under a name; a step may also be unreadable. Every step is
answered, and a step that fails leaves the workspace as it was, so the steps after it still run.

Setting a variable changes it in place: formulas stored earlier that refer to it see the new
value the next time they are evaluated or shown.
-/

namespace Propositional

/-- One step of a session. -/
inductive Step where
  | query (q : Query)
  | set (name : String) (value : Bool)
  | define (name : String) (t : Term)
  | unreadable
deriving Repr

/-- Runs one step: its answer and the workspace after it. -/
def Step.run (w : Workspace) : Step → Except Failure Reply × Workspace
  | .query q => (q.answer w, w)
  | .set name v =>
    let w' := w.assign name v
    (.ok (.variables w'.store.entries), w')
  | .define name t =>
    match w.build t with
    | .ok f => (.ok (.defined name f), w.define name f)
    | .error e => (.error e, w)
  | .unreadable => (.error .malformed, w)

/-- Runs the steps of a session in order: the answer of each. -/
def Step.runAll (w : Workspace) : List Step → List (Except Failure Reply)
  | [] => []
  | s :: ss =>
    let (r, w') := s.run w
    r :: Step.runAll w' ss

end Propositional
