/-! Splitting text, as characters or as bytes, at a separator. -/

set_option autoImplicit false

namespace Tabular.Text

/-- The parts of a text between the occurrences of a separator; there is always one part. -/
def splitAt {α : Type} [DecidableEq α] (separator : α) : List α → List (List α)
  | [] => [[]]
  | c :: rest =>
    match splitAt separator rest with
    | [] => [[c]]
    | part :: parts => if c = separator then [] :: part :: parts else (c :: part) :: parts

end Tabular.Text
