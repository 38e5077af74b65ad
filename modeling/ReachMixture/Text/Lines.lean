/-!
# Lines

A text as a list of lines, each ended by a newline.
-/

namespace ReachMixture.Text

/-- `lines`, each ended by a newline. -/
def unlines (lines : List String) : String := String.join (lines.map (· ++ "\n"))

end ReachMixture.Text
