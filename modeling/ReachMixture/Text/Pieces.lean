/-!
# Pieces of a text

A text cut at every occurrence of a character. There is always one piece more
than there are cuts.
-/

namespace ReachMixture.Text

/-- The pieces of a text between the occurrences of `mark`. -/
def pieces (mark : Char) : List Char → List (List Char)
  | [] => [[]]
  | c :: rest =>
    if c = mark then [] :: pieces mark rest
    else match pieces mark rest with
      | [] => [[c]]
      | piece :: others => (c :: piece) :: others

end ReachMixture.Text
