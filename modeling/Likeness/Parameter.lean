import Likeness.Scalar
import Likeness.Value.Written

/-!
# Parameters

What is asked for may come with parameters by name.  A name is given once, and only
names that are known are admitted.

A parameter of a metric is a number.  It is remembered how messages show it, for
that depends on the value it was given as: a truth value counts as a number and is
shown as itself.
-/

namespace Likeness

/-- Values, each under a name. -/
abbrev Named := List (String × Value)

namespace Named

/-- Refuses other names than those that are known. -/
def onlyNames (known : List String) (named : Named) : Except Fault Unit :=
  if named.all fun n => known.contains n.1 then .ok () else .error .wrongKind

/-- All values of two lists; a name may not be in both. -/
def join (given others : Named) : Except Fault Named :=
  if others.any fun n => (given.lookup n.1).isSome then .error .wrongKind
  else .ok (given ++ others)

/-- The values under other names. -/
def without (names : List String) (named : Named) : Named :=
  named.filter fun n => !names.contains n.1

end Named

/-- A number that a metric depends on. -/
structure Parameter (K : Type) where
  value : Score K
  /-- The parameter as messages show it. -/
  text : String

namespace Parameter

variable {K : Type} [Scalar K]

/-- A number as a parameter. -/
def ofScore (s : Score K) : Parameter K := ⟨s, s.text⟩

/-- A value as a parameter, if it counts as a number. -/
def ofValue? (v : Value) : Option (Parameter K) :=
  v.number?.map fun s => ⟨Score.ofFloat s, v.plain⟩

end Parameter

end Likeness
