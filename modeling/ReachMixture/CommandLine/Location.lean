import ReachMixture.NumberText
import ReachMixture.Scalar
import ReachMixture.Text.Blank
import ReachMixture.Text.Pieces

/-!
# Locations as arguments

A location is given by its coordinates with commas between them; blanks around a
coordinate do not count.
-/

namespace ReachMixture.CommandLine

variable {α : Type}

/-- Why an argument of `--location` is no location. -/
inductive LocationFault where
  /-- A piece is no number. -/
  | badCoordinate (piece text : String)
  /-- Some coordinate is infinite or undefined. -/
  | notFinite (text : String)
deriving DecidableEq

/-- The wording of a `LocationFault`, with the offending text in quotes. -/
def LocationFault.message : LocationFault → String
  | .badCoordinate piece text =>
    "invalid coordinate '" ++ piece ++ "' in location '" ++ text ++ "'"
  | .notFinite text => "location '" ++ text ++ "' has non-finite coordinates"

/-- `NumberText.read?` of every trimmed piece; `badCoordinate` names the first
that is no number, with the whole `text`. -/
def readPieces [NumberText α] (text : String) : List (List Char) →
    Except LocationFault (List α)
  | [] => .ok []
  | piece :: rest =>
    let piece := String.ofList (Text.trim piece)
    match NumberText.read? piece with
    | none => .error (.badCoordinate piece text)
    | some x => (readPieces text rest).map (x :: ·)

/-- The coordinates of a location: the pieces between commas. `notFinite` is
reported only after every piece has been read. -/
def readLocation [NumberText α] [Scalar α] (text : String) :
    Except LocationFault (List α) := do
  let coords ← readPieces text (Text.pieces ',' text.toList)
  if coords.all Scalar.isFinite then .ok coords else .error (.notFinite text)

end ReachMixture.CommandLine
