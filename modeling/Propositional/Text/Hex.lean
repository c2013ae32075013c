/-!
# Hexadecimal digits

`Text.hex width n` writes `n` in lowercase hexadecimal with exactly `width` digits: leading zeros
fill the width, and digits above the width are dropped, so the result always has `width`
characters. Escapes of code points use it with the width the escape prescribes.
-/

namespace Propositional.Text

/-- The lowercase hexadecimal digit of a number below 16. -/
def hexDigit (d : Nat) : Char :=
  if d < 10 then Char.ofNat (48 + d) else Char.ofNat (87 + d)

/-- The lowest `width` hexadecimal digits of `n`, most significant first. -/
def hex (width n : Nat) : String :=
  String.ofList ((List.range width).reverse.map fun i => hexDigit (n / Nat.pow 16 i % 16))

theorem length_hex (width n : Nat) : (hex width n).length = width := by
  simp [hex]

example : hex 2 0x1b = "1b" ∧ hex 4 0xa0 = "00a0" ∧ hex 8 0x1f600 = "0001f600" := by decide

end Propositional.Text
