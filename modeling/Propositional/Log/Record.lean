import Propositional.Log.Level
import Propositional.Text.JsonString
import Propositional.Text.Quoted

/-!
# Log records

A log record has a level, a message and a list of string attributes. A log keeps the records whose
level is at least its threshold and writes each as one line, in one of two formats:

* the text format, `level=INFO msg=evaluated formula="And(True, False)"`: keys and values are
  written bare when that is unambiguous, and as quoted literals otherwise;
* the JSON format, `{"level":"INFO","msg":"evaluated","formula":"And(True, False)"}`: one object
  whose members are the level, the message and the attributes, in that order.

A value is written bare in the text format when it is not empty and every character is safe:
an ASCII character is safe unless it is a control, a space, `=` or a double quote (a backslash
is safe); any other character is safe when it is printable and not the replacement character
U+FFFD.
-/

namespace Propositional.Log

/-- A log record: a level, a message and string attributes, in order. -/
structure Record where
  level : Level
  message : String
  attrs : List (String × String)
deriving DecidableEq, Repr

/-- The two line formats: key-value text and JSON objects. -/
inductive Format where
  | text
  | json
deriving DecidableEq, Repr

/-- Text for people at a terminal, JSON for everyone else. -/
def Format.ofInteractive (interactive : Bool) : Format :=
  if interactive then .text else .json

/-- Whether a character may stand in a bare text value. -/
def safeChar (c : Char) : Bool :=
  if c.toNat < 0x80 then !(c.toNat < 0x20 || c = ' ' || c = '=' || c = '"')
  else c ≠ '�' && c.isPrintable

/-- A key or value in the text format: bare when every character is safe, quoted otherwise. -/
def textValue (s : String) : String :=
  if !s.isEmpty && s.all safeChar then s else Text.Quoted.encode s

/-- A record as one line of the given format. -/
def Record.line : Format → Record → String
  | .text, r =>
    "level=" ++ textValue r.level.name ++ " msg=" ++ textValue r.message ++
      String.join (r.attrs.map fun a => " " ++ textValue a.1 ++ "=" ++ textValue a.2) ++ "\n"
  | .json, r =>
    "\x7b\"level\":" ++ Text.JsonString.encode r.level.name ++
      ",\"msg\":" ++ Text.JsonString.encode r.message ++
      String.join (r.attrs.map fun a =>
        "," ++ Text.JsonString.encode a.1 ++ ":" ++ Text.JsonString.encode a.2) ++ "\x7d\n"

/-- Whether a log with the given threshold keeps a record. -/
def Record.kept (threshold : Level) (r : Record) : Bool :=
  decide (threshold.severity ≤ r.level.severity)

/-- What a log with the given format and threshold writes for the records, in order. -/
def write (format : Format) (threshold : Level) (records : List Record) : String :=
  String.join ((records.filter (Record.kept threshold)).map (Record.line format))

example : write .json .warn [⟨.error, "failed", [("error", "boom")]⟩] =
    "\x7b\"level\":\"ERROR\",\"msg\":\"failed\",\"error\":\"boom\"\x7d\n" := by
  cbv

end Propositional.Log
