/-!
# Log levels

A log level is an integer severity. Four severities have names: `DEBUG` (-4), `INFO` (0),
`WARN` (4) and `ERROR` (8). Every other severity is named after the nearest named severity
below it, with the signed distance to it: 1 is `INFO+1`, -6 is `DEBUG-2`, 12 is `ERROR+4`, and
everything below `INFO` counts from `DEBUG`.
-/

namespace Propositional.Log

/-- The severity of a log record, or the least severity a log keeps; higher is more severe. -/
structure Level where
  severity : Int
deriving DecidableEq, Repr

namespace Level

/-- Diagnostic detail. -/
def debug : Level := ⟨-4⟩
/-- Ordinary information. -/
def info : Level := ⟨0⟩
/-- Something unexpected that does not stop the work. -/
def warn : Level := ⟨4⟩
/-- A failure. -/
def error : Level := ⟨8⟩

/-- The signed distance to the named severity, or nothing at distance zero. -/
def offset (n : Int) : String :=
  if n = 0 then ""
  else if 0 < n then "+" ++ Nat.repr n.natAbs
  else "-" ++ Nat.repr n.natAbs

/-- The name of a level. -/
def name (l : Level) : String :=
  if l.severity < info.severity then "DEBUG" ++ offset (l.severity - debug.severity)
  else if l.severity < warn.severity then "INFO" ++ offset (l.severity - info.severity)
  else if l.severity < error.severity then "WARN" ++ offset (l.severity - warn.severity)
  else "ERROR" ++ offset (l.severity - error.severity)

/-- The level a name stands for; only the four plain names are read. -/
def ofName? : String → Option Level
  | "DEBUG" => some debug
  | "INFO" => some info
  | "WARN" => some warn
  | "ERROR" => some error
  | _ => none

/-- The level of a severity given as a number, which must lie between -1000 and 1000. -/
def ofSeverity? (n : Int) : Option Level :=
  if -1000 ≤ n ∧ n ≤ 1000 then some ⟨n⟩ else none

example : (Level.mk 1).name = "INFO+1" ∧ (Level.mk (-6)).name = "DEBUG-2" ∧
    (Level.mk 12).name = "ERROR+4" ∧ (Level.mk 4).name = "WARN" ∧
    (Level.mk (-9)).name = "DEBUG-5" := by
  decide

end Level

end Propositional.Log
