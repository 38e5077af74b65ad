import ReachMixture.CommandLine.Option
import ReachMixture.Run.Event

/-!
# Which events are shown

A filter shows the events of a level and of all more important ones. It is named
by the level, or by a number from zero for silence to five for everything.
-/

namespace ReachMixture.Session

/-- The least important level shown; `none` is silence. -/
abbrev LogFilter := Option Level

/-- The filter of a number, `0` for silence up to `5` for everything. -/
def LogFilter.ofNat? : Nat → Option LogFilter
  | 0 => some none
  | 1 => some (some .error)
  | 2 => some (some .warn)
  | 3 => some (some .info)
  | 4 => some (some .debug)
  | 5 => some (some .trace)
  | _ => none

/-- The filter of a `Level.name` in any case; the empty name shows errors, `OFF`
nothing. -/
def LogFilter.ofName? (name : String) : Option LogFilter :=
  let name := String.ofList (name.toList.map Char.toUpper)
  if name.isEmpty then some (some .error)
  else if name = "OFF" then some none
  else (Level.all.find? fun l => l.name == name).map some

/-- The filter of a text, read as a number or as a name; `warn` if it is
neither. -/
def LogFilter.read (text : Option String) : LogFilter :=
  (text.bind fun s =>
    (match CommandLine.readNatural s with
      | .ok n => LogFilter.ofNat? n
      | .error _ => none) <|> LogFilter.ofName? s).getD (some .warn)

/-- Whether a filter shows the level `l`. -/
def LogFilter.shows (f : LogFilter) (l : Level) : Bool :=
  f.any fun least => l.rank ≤ least.rank

end ReachMixture.Session
