import Propositional.Session
import Propositional.Tour

/-!
# Requests

A `Request` is one unit of work for the library: a query over some variables, a session of steps
over some variables, a log of records to write, or the tour. A request may also be unreadable.
`Request.answer` carries it out; every request starts from a fresh workspace.
-/

namespace Propositional

/-- One unit of work. A query and a session first set the given variables. -/
inductive Request where
  | query (vars : List (String × Bool)) (q : Query)
  | session (vars : List (String × Bool)) (steps : List Step)
  | log (interactive : Bool) (threshold : Log.Level) (records : List Log.Record)
  | tour
  | unreadable
deriving Repr

/-- The outcome of a request. -/
inductive Answer where
  | reply (r : Except Failure Reply)
  | steps (rs : List (Except Failure Reply))
  | log (output : String)
  | tour (t : Tour.Transcript)
deriving Repr

/-- Carries out a request. -/
def Request.answer : Request → Answer
  | .query vars q => .reply (q.answer (.ofStore (.ofList vars)))
  | .session vars steps => .steps (Step.runAll (.ofStore (.ofList vars)) steps)
  | .log interactive threshold records =>
    .log (Log.write (.ofInteractive interactive) threshold records)
  | .tour => .tour Tour.transcript
  | .unreadable => .reply (.error .malformed)

end Propositional
