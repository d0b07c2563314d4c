/-!
# Parts of a text

A text is split at every character of a class.  Its words are the parts that hold
something.
-/

namespace Likeness.Text

/-- The parts of a text between the characters of a class, one more than there are
    such characters. -/
def splitWhen (p : Char → Bool) : List Char → List (List Char)
  | [] => [[]]
  | c :: rest =>
    if p c then [] :: splitWhen p rest
    else
      match splitWhen p rest with
      | [] => [[c]]
      | part :: parts => (c :: part) :: parts

/-- The parts of a text between the characters of a class that are not empty. -/
def words (p : Char → Bool) (cs : List Char) : List (List Char) :=
  (splitWhen p cs).filter fun w => !w.isEmpty

end Likeness.Text
