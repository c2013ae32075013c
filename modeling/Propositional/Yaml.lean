/-!
# YAML block documents

The YAML values this library writes: Boolean scalars, and mappings with a single key whose value
is a sequence. `Yaml.Node.render` writes a value as a block document indented by four spaces per
level, as in

```
And:
    - Or:
        - true
        - false
    - Not:
        - false
```

A document with no value is `null`.
-/

namespace Propositional.Yaml

/-- A YAML value: a Boolean scalar, or a single-key mapping whose value is a sequence. -/
inductive Node where
  | bool (b : Bool)
  | entry (key : String) (items : List Node)
deriving Repr

/-- How a Boolean scalar is written. -/
def scalar (b : Bool) : String := if b then "true" else "false"

/-- Blank columns. -/
def indent (n : Nat) : String := String.ofList (List.replicate n ' ')

mutual

/-- A value whose first line continues the current line; nested sequence items stand at column
`col + 4`. -/
def Node.block (col : Nat) : Node → String
  | .bool b => scalar b ++ "\n"
  | .entry key items => key ++ ":\n" ++ Node.blockItems (col + 4) items

/-- Sequence items, each on its own line at column `col`. -/
def Node.blockItems (col : Nat) : List Node → String
  | [] => ""
  | n :: ns => indent col ++ "- " ++ n.block col ++ Node.blockItems col ns

end

/-- The document of a value. -/
def Node.render (n : Node) : String := n.block 0

/-- The document that holds no value. -/
def nullDocument : String := "null\n"

example : (Node.entry "And" [.entry "Or" [.bool true, .bool false], .entry "Not" [.bool false]]).render
    = "And:\n    - Or:\n        - true\n        - false\n    - Not:\n        - false\n" := by
  decide

end Propositional.Yaml
