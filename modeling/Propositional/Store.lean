import Propositional.Formula.Basic

/-!
# Variable stores

A `Store` holds the named Boolean variables that references point at. Variables keep the order in
which they were first created; setting a variable that exists changes its value where it stands,
so every formula that refers to it sees the new value.

`Store.value` is the valuation a store gives to formulas: a name without a variable reads as
`false`, which never matters for formulas built against the store, since a reference can only be
made to a variable that exists.
-/

namespace Propositional

/-- Named Boolean variables in order of creation. -/
structure Store where
  entries : List (String × Bool)
deriving DecidableEq, Repr

namespace Store

/-- The store without variables. -/
def empty : Store := ⟨[]⟩

/-- The value of a variable, if it exists. -/
def get? (s : Store) (x : String) : Option Bool :=
  s.entries.lookup x

/-- Whether a variable of the given name exists. -/
def contains (s : Store) (x : String) : Bool :=
  (s.get? x).isSome

/-- Sets the value of a variable in place, or creates it at the end. -/
def set (s : Store) (x : String) (v : Bool) : Store :=
  if s.contains x then ⟨s.entries.map fun e => if e.1 = x then (x, v) else e⟩
  else ⟨s.entries ++ [(x, v)]⟩

/-- The store made by setting the given variables in order. -/
def ofList (vs : List (String × Bool)) : Store :=
  vs.foldl (fun s e => s.set e.1 e.2) empty

/-- The valuation the store gives: the value of a variable, `false` for a name without one. -/
def value (s : Store) : Valuation := fun x => (s.get? x).getD false

example : ((Store.ofList [("p", true), ("q", false)]).set "p" false).entries =
    [("p", false), ("q", false)] := by decide

end Store

end Propositional
