import Likeness.Command.Misuse
import Likeness.Schema.Reading
import Likeness.Store.Path

/-!
# Arguments

Options and arguments on a command line.  A long option has its value behind an
equals sign or in the next argument, a short one in the same argument or the
next.  Two dashes end the options.
-/

namespace Likeness

/-- An option that a command knows. -/
structure OptionForm where
  /-- Its name with the dashes. -/
  name : String
  /-- The letter of its short form. -/
  letter : Option Char
  takesValue : Bool

/-- What was found on a command line. -/
structure Arguments where
  /-- The options by name with their values, in order. -/
  options : List (String × String)
  /-- The rest, in order. -/
  plain : List String
  deriving Repr, DecidableEq

namespace Arguments

/-- Something that is found to be an option. -/
inductive Found where
  /-- The option has its value, or takes none. -/
  | whole (name value : String)
  /-- Its value is the next argument. -/
  | needsValue (name : String)

/-- The option that an argument with two dashes names. -/
def ofLong (forms : List OptionForm) (arg : List Char) : Except Misuse Found :=
  let name := String.ofList (arg.takeWhile (· ≠ '='))
  match forms.find? (·.name = name), arg.dropWhile (· ≠ '=') with
  | none, _ => .error (.unknownOption name)
  | some form, '=' :: value =>
    if form.takesValue then .ok (.whole form.name (String.ofList value))
    else .error (.valueUnwanted form.name)
  | some form, _ => .ok (if form.takesValue then .needsValue form.name else .whole form.name "")

/-- The option that an argument with one dash names by its letter. -/
def ofShort (forms : List OptionForm) (letter : Char) (value : List Char) : Except Misuse Found :=
  match forms.find? (·.letter = some letter) with
  | none => .error (.unknownOption (String.ofList ['-', letter]))
  | some form =>
    .ok (if value.isEmpty then .needsValue form.name
      else .whole form.name (String.ofList value))

/-- The option that an argument names, if it has the look of one. -/
def option? (forms : List OptionForm) (arg : List Char) : Option (Except Misuse Found) :=
  match arg with
  | '-' :: '-' :: _ => some (ofLong forms arg)
  | '-' :: letter :: value => some (ofShort forms letter value)
  | _ => none

/-- The options and arguments of a command line.  Unless they are mixed, the
    first argument that is no option ends the options. -/
def read (forms : List OptionForm) (mixed : Bool) : List String → Except Misuse Arguments
  | [] => .ok ⟨[], []⟩
  | arg :: rest =>
    if arg = "--" then .ok ⟨[], rest⟩
    else
      match option? forms arg.toList with
      | none =>
        if mixed then (read forms mixed rest).map fun a => { a with plain := arg :: a.plain }
        else .ok ⟨[], arg :: rest⟩
      | some (.error e) => .error e
      | some (.ok (.whole name value)) =>
        (read forms mixed rest).map fun a => { a with options := (name, value) :: a.options }
      | some (.ok (.needsValue name)) =>
        match rest with
        | [] => .error (.valueMissing name)
        | value :: rest =>
          (read forms mixed rest).map fun a => { a with options := (name, value) :: a.options }

/-- The value of an option; the last one counts. -/
def value? (a : Arguments) (name : String) : Option String := a.options.reverse.lookup name

/-- Whether an option was given. -/
def has (a : Arguments) (name : String) : Bool := (a.value? name).isSome

/-- The integer that a text is, as leniently as in settings. -/
def integer? (s : String) : Option Int := (Schema.integerOfText s.toList).toOption

/-- The integer that an option gives. -/
def integerOf (a : Arguments) (name : String) : Except Misuse (Option Int) :=
  match a.value? name with
  | none => .ok none
  | some value =>
    match integer? value with
    | some n => .ok (some n)
    | none => .error (.notInteger name value)

/-- The path that a text is. -/
def path (name text : String) : Except Misuse Path :=
  let p := Path.ofString text
  if p.hasNul then .error (.notPath name) else .ok p

/-- The path that an option gives. -/
def pathOf (a : Arguments) (name : String) : Except Misuse (Option Path) :=
  match a.value? name with
  | none => .ok none
  | some text => (path name text).map some

/-- Refuses options of a number or of a path that give none, in the order in which
    they were given. -/
def checkValues (a : Arguments) (integers paths : List String) : Except Misuse Unit :=
  a.options.forM fun o =>
    if integers.contains o.1 then (a.integerOf o.1).map fun _ => ()
    else if paths.contains o.1 then (a.pathOf o.1).map fun _ => ()
    else .ok ()

/-- Refuses arguments where none are expected. -/
def expectNone (a : Arguments) : Except Misuse Unit :=
  match a.plain with
  | [] => .ok ()
  | extra :: _ => .error (.tooManyArguments extra)

end Arguments

end Likeness
