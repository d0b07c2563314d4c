import Likeness.Fault

/-!
# Refusing YAML text

A text is refused where its first problem is found.
-/

namespace Likeness.Yaml

/-- The text has a problem. -/
def refuse {α : Type} (p : Problem) : Except Fault α := .error (.notYaml p)

/-- A node stands for nothing that can be made. -/
def unmade {α : Type} : Except Fault α := refuse .construction

end Likeness.Yaml
