import Propositional.Formula.Basic
import Propositional.Formula.Eval
import Propositional.Formula.Rule
import Propositional.Formula.Yaml
import Propositional.Formula.Methods
import Propositional.Yaml
import Propositional.Store
import Propositional.Failure
import Propositional.Term
import Propositional.TruthTable
import Propositional.Query
import Propositional.Session
import Propositional.Text.Hex
import Propositional.Text.Printable
import Propositional.Text.Quoted
import Propositional.Text.JsonString
import Propositional.Log.Level
import Propositional.Log.Record
import Propositional.Tour
import Propositional.Request
import Propositional.Main
import Propositional.Proofs.GuardedCalls
import Propositional.Proofs.Evaluation
import Propositional.Proofs.Transformation
import Propositional.Proofs.Equivalence
import Propositional.Proofs.YamlDocument
import Propositional.Proofs.TableRows
import Propositional.Proofs.EmptyReceiver
import Propositional.Proofs.TextReading
import Propositional.Proofs.SessionRequests
