import ReachMixture.Text.Hidden

/-!
# Quoted texts

A text between quotes in which quotes, backslashes and characters that cannot be
seen are written as escapes.
-/

namespace ReachMixture.Text

/-- The hexadecimal digits of `n`. -/
def hexText (n : Nat) : List Char := Nat.toDigits 16 n

/-- A character inside quotes: quotes, backslashes and the usual controls behind
a backslash, other characters that are `isHidden` by their code point. -/
def escape (c : Char) : List Char :=
  if c = '"' ∨ c = '\\' then ['\\', c]
  else if c = '\n' then ['\\', 'n']
  else if c = '\r' then ['\\', 'r']
  else if c = '\t' then ['\\', 't']
  else if c.toNat = 0 then ['\\', '0']
  else if isHidden c then ['\\', 'u', '\x7b'] ++ hexText c.toNat ++ ['\x7d']
  else [c]

/-- A text between quotes, every character by `escape`. -/
def quoted (s : String) : String :=
  String.ofList ('"' :: s.toList.flatMap escape ++ ['"'])

end ReachMixture.Text
