import Propositional.Text.Hex

/-!
# JSON string literals

`Text.JsonString.encode` writes a string as a JSON string literal. A double quote and a
backslash are escaped with a backslash, newline, carriage return and tab by their letter escapes,
the other controls below U+0020 as `\u00` with two hex digits, and the separators U+2028 and
U+2029 as `\u2028` and `\u2029`, so the literal can be embedded in script text. Every other
character, `<`, `>` and `&` included, stands for itself.
-/

namespace Propositional.Text.JsonString

/-- How one character is written inside a JSON string literal. -/
def escape (c : Char) : String :=
  match c with
  | '"' => "\\\""
  | '\\' => "\\\\"
  | '\n' => "\\n"
  | '\r' => "\\r"
  | '\t' => "\\t"
  | '\u2028' => "\\u2028"
  | '\u2029' => "\\u2029"
  | _ => if c.toNat < 0x20 then "\\u00" ++ hex 2 c.toNat else c.toString

/-- A string as a JSON string literal. -/
def encode (s : String) : String :=
  "\"" ++ String.join (s.toList.map escape) ++ "\""

example : encode "tab\there\n<a&b>\x01\u2028" = "\"tab\\there\\n<a&b>\\u0001\\u2028\"" := by
  decide

end Propositional.Text.JsonString
