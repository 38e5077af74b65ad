/-!
# Columns of text

Text in columns of a least width. A text that is too long is never cut by
padding.
-/

namespace ReachMixture.Text

/-- `fill` repeated up to `width` characters together with `s`. -/
def padding (fill : Char) (width : Nat) (s : String) : String :=
  String.ofList (List.replicate (width - s.length) fill)

/-- `s` at the right edge of a column of `width` characters. -/
def padLeft (width : Nat) (s : String) : String := padding ' ' width s ++ s

/-- `s` at the left edge of a column of `width` characters. -/
def padRight (width : Nat) (s : String) : String := s ++ padding ' ' width s

/-- A rule of `width` hyphens. -/
def rule (width : Nat) : String := String.ofList (List.replicate width '-')

/-- A text of at most `limit` characters; a longer one is cut and ends in a full
stop. -/
def cut (limit : Nat) (s : String) : String :=
  if s.length ≤ limit then s else String.ofList (s.toList.take (limit - 1)) ++ "."

end ReachMixture.Text
