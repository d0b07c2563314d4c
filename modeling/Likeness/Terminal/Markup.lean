import Likeness.Terminal.Handler
import Likeness.Terminal.ShortCode
import Likeness.Terminal.Style

/-!
# Markup

Printed text may hold tags in brackets, which turn a style on or off and are not
shown.  Backslashes in front of a tag come in pairs, each of which shows one; a
backslash that is left over makes the tag plain text.
-/

namespace Likeness.Terminal.Markup

/-- A piece of marked-up text. -/
inductive Piece where
  | plain (cs : List Char)
  /-- What stands in brackets, and how many backslashes stand in front of it. -/
  | tag (backslashes : Nat) (body : List Char)
  deriving Repr, DecidableEq

/-- A tag begins with this character. -/
def opensTag (c : Char) : Bool := ('a' ≤ c && c ≤ 'z') || c = '#' || c = '/' || c = '@'

/-- A tag goes on with this character. -/
def isInner (c : Char) : Bool := c ≠ '[' && c ≠ ']'

/-- What stands in brackets at the head of a text, and what follows it. -/
def bracketed? : List Char → Option (List Char × List Char)
  | '[' :: c :: rest =>
    if opensTag c then
      match rest.dropWhile isInner with
      | ']' :: after => some (c :: rest.takeWhile isInner, after)
      | _ => none
    else none
  | _ => none

/-- The tag with its backslashes at the head of a text, and what follows it. -/
def tag? (cs : List Char) : Option (Piece × List Char) :=
  (bracketed? (cs.dropWhile (· = '\\'))).map fun p =>
    (.tag (cs.takeWhile (· = '\\')).length p.1, p.2)

/-- What follows a part of a text is no longer than the text. -/
theorem length_dropWhile_le (p : Char → Bool) (cs : List Char) :
    (cs.dropWhile p).length ≤ cs.length :=
  (List.dropWhile_suffix p).length_le

/-- What follows brackets is shorter than the text. -/
theorem length_lt_of_bracketed? {cs after body : List Char}
    (h : bracketed? cs = some (body, after)) : after.length < cs.length := by
  unfold bracketed? at h
  split at h
  · next c rest =>
    split at h
    · have hle := length_dropWhile_le isInner rest
      split at h
      · next hd => simp_all; omega
      · simp at h
    · simp at h
  · simp at h

/-- What follows a tag is shorter than the text. -/
theorem length_lt_of_tag? {cs after : List Char} {t : Piece}
    (h : tag? cs = some (t, after)) : after.length < cs.length := by
  unfold tag? at h
  cases hb : bracketed? (cs.dropWhile (· = '\\')) with
  | none => simp [hb] at h
  | some p =>
    have hlt : p.2.length < (cs.dropWhile (· = '\\')).length := length_lt_of_bracketed? hb
    have hle := length_dropWhile_le (· = '\\') cs
    simp only [hb, Option.map_some, Option.some.injEq, Prod.mk.injEq] at h
    obtain ⟨_, rfl⟩ := h
    omega

/-- A character in front of pieces. -/
def cons (c : Char) : List Piece → List Piece
  | .plain cs :: ps => .plain (c :: cs) :: ps
  | ps => .plain [c] :: ps

/-- The pieces of a text. -/
def pieces : List Char → List Piece
  | [] => []
  | c :: rest =>
    match _h : tag? (c :: rest) with
    | some (t, after) => t :: pieces after
    | none => cons c (pieces rest)
  termination_by cs => cs.length
  decreasing_by
    · exact length_lt_of_tag? _h
    · exact Nat.lt_succ_self rest.length

/-- A piece that shows what it holds. -/
def Piece.escaped : Piece → List Char
  | .plain cs => cs
  | .tag n body => List.replicate (2 * n + 1) '\\' ++ '[' :: body ++ [']']

/-- A single backslash at the end of a text is doubled, so that it does not touch
    what follows. -/
def doubleLast (cs : List Char) : List Char :=
  match cs.reverse with
  | '\\' :: '\\' :: _ => cs
  | '\\' :: _ => cs ++ ['\\']
  | _ => cs

/-- A text as markup that shows it. -/
def escape (s : String) : String :=
  String.ofList (doubleLast ((pieces s.toList).flatMap Piece.escaped))

/-- A style that is on: its normal form, and what stands behind the equals sign of
    its tag. -/
structure Opened where
  style : List Char
  parameters : Option (List Char)

/-- A text of which some was read. -/
structure Progress where
  /-- How many characters were read. -/
  position : Nat
  /-- What is shown. -/
  shown : List Char
  /-- The styles that are on, the last first. -/
  styles : List Opened

/-- The control characters that are not shown. -/
def isDropped (c : Char) : Bool :=
  c = '\x07' || c = '\x08' || c = '\x0b' || c = '\x0c' || c = '\x0d'

/-- Plain text as it is shown. -/
def shownText (cs : List Char) : List Char :=
  (ShortCode.replace cs).filter fun c => !isDropped c

/-- Brackets behind a backslash stand for themselves. -/
def openBrackets : List Char → List Char
  | '\\' :: '[' :: rest => '[' :: openBrackets rest
  | c :: rest => c :: openBrackets rest
  | [] => []

namespace Progress

/-- More text is shown. -/
def add (p : Progress) (cs : List Char) : Progress :=
  { p with shown := p.shown ++ shownText cs }

/-- Some characters were read. -/
def move (p : Progress) (n : Nat) : Progress := { p with position := p.position + n }

/-- The styles without the last one of a name, which has to be on. -/
def withoutStyle? (name : List Char) : List Opened → Option (Opened × List Opened)
  | [] => none
  | o :: os =>
    if o.style = name then some (o, os)
    else (withoutStyle? name os).map fun r => (r.1, o :: r.2)

/-- A tag turns a style on, or off if it begins with a slash; without a name it
    turns off the last. -/
def apply (p : Progress) (body : List Char) : Except Fault Progress := do
  let name := body.takeWhile (· ≠ '=')
  match name with
  | '/' :: closed =>
    let closed := Text.trimBoth Text.isBlank closed
    let (opened, styles) ←
      if closed = [] then
        match p.styles with
        | o :: os => .ok (o, os)
        | [] => .error (.notMarkup (.nothingToClose p.position))
      else
        match withoutStyle? (← Style.normalForm closed) p.styles with
        | some r => .ok r
        | none =>
          .error (.notMarkup (.strayTag (String.ofList ('[' :: body ++ [']'])) p.position))
    if opened.style.head? = some '@' then
      (Handler.check (opened.parameters.getD [])).mapError .notMarkup
    .ok { p with styles := styles }
  | name =>
    let style ← Style.normalForm name
    .ok { p with styles := ⟨style, (body.dropWhile (· ≠ '=')).tail?⟩ :: p.styles }

/-- One more piece is read. -/
def read (p : Progress) : Piece → Except Fault Progress
  | .plain cs => .ok ((p.add (openBrackets cs)).move cs.length)
  | .tag n body =>
    let p := (p.add (List.replicate (n / 2) '\\')).move n
    (if n % 2 = 1 then .ok (p.add ('[' :: body ++ [']'])) else p.apply body).map
      (·.move (body.length + 2))

end Progress

/-- What markup shows. -/
def render (s : String) : Except Fault String :=
  let cs := s.toList
  if cs.contains '[' then
    ((pieces cs).foldlM Progress.read ⟨0, [], []⟩).map fun p => String.ofList p.shown
  else .ok (String.ofList (shownText cs))

end Likeness.Terminal.Markup
