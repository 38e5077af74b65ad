import ReachMixture.Mixture.Basic

/-!
# Mixtures in one line

A mixture is written as a sum of weighted point masses with three places.
-/

namespace ReachMixture

variable {α : Type} {m : Nat} [NumberText α]

/-- A location in brackets, every coordinate with `places` digits after the
point. -/
def locationText (places : Nat) (location : Vector α m) : String :=
  "[" ++ String.intercalate ", " (location.toList.map (NumberText.fixed places)) ++ "]"

/-- A component as `w * Delta([x₁, …])`, with three places throughout. -/
def Component.text (c : Component α m) : String :=
  NumberText.fixed 3 c.weight ++ " * Delta(" ++ locationText 3 c.location ++ ")"

/-- A mixture as the sum of its `Component.text`s. -/
def Mixture.text [Zero α] [LT α] [Scalar α] (x : Mixture α m) : String :=
  if x.isEmpty then "<empty mixture>"
  else String.intercalate " + " (x.components.map Component.text)

end ReachMixture
