import Propositional.Text.Hex
import Propositional.Text.Printable

/-!
# Quoted literals

`Text.Quoted.encode` writes a string as a double-quoted literal in which every character that is
not printable is escaped, so the literal shows each character unambiguously:

* a double quote and a backslash get a backslash in front;
* printable characters stand for themselves;
* the controls with a letter escape are written `\a \b \f \n \r \t \v`;
* other controls below U+0020, and U+007F, are written `\x` with two hex digits;
* any other character below U+10000 is written `\u` with four hex digits, and the rest `\U`
  with eight.
-/

namespace Propositional.Text.Quoted

/-- How one character is written inside a quoted literal. -/
def escape (c : Char) : String :=
  if c = '"' ∨ c = '\\' then "\\" ++ c.toString
  else if c.isPrintable then c.toString
  else
    match c with
    | '\x07' => "\\a"
    | '\x08' => "\\b"
    | '\x0c' => "\\f"
    | '\n' => "\\n"
    | '\r' => "\\r"
    | '\t' => "\\t"
    | '\x0b' => "\\v"
    | _ =>
      if c.toNat < 0x20 ∨ c.toNat = 0x7f then "\\x" ++ hex 2 c.toNat
      else if c.toNat < 0x10000 then "\\u" ++ hex 4 c.toNat
      else "\\U" ++ hex 8 c.toNat

/-- A string as a double-quoted literal. -/
def encode (s : String) : String :=
  "\"" ++ String.join (s.toList.map escape) ++ "\""

example : encode "a \"b\"\\\n\x01λ " = "\"a \\\"b\\\"\\\\\\n\\x01λ\\u00a0\"" := by
  decide +kernel

end Propositional.Text.Quoted
