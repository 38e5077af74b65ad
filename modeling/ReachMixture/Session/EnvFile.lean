import ReachMixture.Text.Alphanumeric
import ReachMixture.Text.Blank

/-!
# Environment files

An environment file assigns values to names, one assignment on a line. A line
may begin with `export`, and `#` begins a comment. Values may be quoted: nothing
has a meaning between single quotes; between double quotes a backslash and a
dollar sign keep theirs. A dollar sign stands for the value of a name. Quotes
may span lines.

Reading stops at the first line that cannot be read; the assignments before it
hold.

- `logicalLines`: the lines, quoted line breaks kept together.
- `readValue`: a value.
- `readLine`: an assignment.
- `load`: the names a file adds to an environment.
-/

namespace ReachMixture.Session

/-- Names with their values, as `name=value` entries in order. -/
abbrev Environment := List (String × String)

/-- What stands behind `beginning` in `text`; `none` if `text` does not begin
so. -/
def behind? : (beginning text : List Char) → Option (List Char)
  | [], text => some text
  | _ :: _, [] => none
  | b :: beginning, c :: text => if b = c then behind? beginning text else none

/-- The value of a name: what stands behind `name=` in the first entry that
begins so. A name that holds an equals sign itself thus reaches into the value
of a shorter one. The empty name has no value. -/
def Environment.get? (env : Environment) (name : String) : Option String :=
  if name.isEmpty then none
  else env.findSome? fun (key, value) =>
    (behind? (name.toList ++ ['=']) (key.toList ++ '=' :: value.toList)).map String.ofList

namespace EnvFile

open Text

/-! ## Logical lines -/

/-- Where in a line the scanner stands. -/
inductive Scan where
  /-- Outside of quotes. -/
  | plain
  /-- Behind white space. -/
  | spaced
  /-- Behind a backslash. -/
  | escaped
  /-- Between single quotes. -/
  | single
  /-- Between single quotes, behind a backslash. -/
  | singleEscaped
  /-- Between double quotes. -/
  | double
  /-- Between double quotes, behind a backslash. -/
  | doubleEscaped
deriving DecidableEq

/-- The place behind `c`, read outside of quotes. -/
def Scan.begin (c : Char) : Scan :=
  if c = '\\' then .escaped
  else if c = '"' then .double
  else if c = '\'' then .single
  else .plain

/-- The place behind the character `c`. -/
def Scan.next (s : Scan) (c : Char) : Scan :=
  match s with
  | .spaced => Scan.begin c
  | .plain => if isBlank c && c != '\n' && c != '\r' then .spaced else Scan.begin c
  | .escaped => .plain
  | .double => if c = '\\' then .doubleEscaped else if c = '"' then .plain else .double
  | .doubleEscaped => .double
  | .single => if c = '\\' then .singleEscaped else if c = '\'' then .plain else .single
  | .singleEscaped => .single

/-- Reads a line from a place on: the text before a comment, and the place
behind it; no place if a comment ends the line. -/
def scan (s : Scan) : List Char → List Char × Option Scan
  | [] => ([], some s)
  | c :: rest =>
    if s = .spaced ∧ c = '#' then ([], none)
    else
      let (text, last) := scan (s.next c) rest
      (c :: text, last)

/-- The lines of a text, newlines kept. -/
def rawLines : List Char → List (List Char)
  | [] => []
  | c :: rest =>
    if c = '\n' then [c] :: rawLines rest
    else match rawLines rest with
      | [] => [[c]]
      | line :: others => (c :: line) :: others

/-- A line without its `\n` or `\r\n`. -/
def chomp (line : List Char) : List Char :=
  match line.reverse with
  | '\n' :: '\r' :: rest => rest.reverse
  | '\n' :: rest => rest.reverse
  | _ => line

/-- Puts lines together as long as a quote is open. The lines before an open end
are kept in `buffer`, reversed. `none` stands for a line that never ends. -/
def logicalLines (buffer : List Char) (s : Scan) : List (List Char) →
    List (Option (List Char))
  | [] => if s = .plain then [] else [none]
  | line :: rest =>
    if buffer.isEmpty && (trimStart line).head? ==
      some '#' then some [] :: logicalLines [] .plain rest
    else match scan s line with
      | (text, none) => some (buffer.reverse ++ text) :: logicalLines [] .plain rest
      | (_, some .plain) =>
        some (chomp (buffer.reverse ++ line)) :: logicalLines [] .plain rest
      | (_, some s) => logicalLines (line.reverse ++ buffer) s rest

/-! ## Values -/

/-- A reference to a name that is being read. -/
inductive Reference where
  /-- No reference. -/
  | none
  /-- A name behind a dollar sign, reversed. -/
  | bare (name : List Char)
  /-- A name between braces, reversed. -/
  | braced (name : List Char)

/-- A value that is being read. -/
structure Value where
  /-- What was read, reversed. -/
  output : List Char
  /-- Between single quotes. -/
  single : Bool
  /-- Between double quotes. -/
  double : Bool
  /-- Behind a backslash. -/
  escaped : Bool
  /-- Behind the white space that ends a value. -/
  ended : Bool
  /-- The name that is being read. -/
  reference : Reference

/-- Adds the value of the name that was being read. -/
def Value.resolve (lookup : String → String) (v : Value) (name : List Char) : Value :=
  { v with
    output := (lookup (String.ofList name.reverse)).toList.reverse ++ v.output
    reference := .none }

/-- Adds a character to `output`. -/
def Value.push (v : Value) (c : Char) : Value := { v with output := c :: v.output }

/-- Reads a character outside of single quotes, escapes and references. -/
def Value.ordinary (v : Value) (c : Char) : Value :=
  if v.double then
    if c = '"' then { v with double := false }
    else if c = '\\' then { v with escaped := true }
    else v.push c
  else if c = '\'' then { v with single := true }
  else if c = '"' then { v with double := true }
  else if c = '\\' then { v with escaped := true }
  else if c = ' ' ∨ c = '\t' then { v with ended := true }
  else v.push c

/-- Reads a character of a value; `none` if it cannot stand there. -/
def Value.next (lookup : String → String) (v : Value) (c : Char) : Option Value :=
  if v.escaped then
    if c = '\\' ∨ c = '\'' ∨ c = '"' ∨ c = '$' ∨ c = ' ' then
      some { v.push c with escaped := false }
    else if c = 'n' then some { v.push '\n' with escaped := false }
    else none
  else if v.single then some (if c = '\'' then { v with single := false } else v.push c)
  else match v.reference with
    | .bare name =>
      if isAlphanumeric c then some { v with reference := .bare (c :: name) }
      else if c = '\x7b' ∧ name.isEmpty then some { v with reference := .braced [] }
      else
        let v := v.resolve lookup name
        some (if c = '$' then { v with reference := .bare [] } else v.push c)
    | .braced name =>
      some (if c = '\x7d' then v.resolve lookup name
            else { v with reference := .braced (c :: name) })
    | .none => some (if c = '$' then { v with reference := .bare [] } else v.ordinary c)

/-- Reads a value to its end. Behind the end only blanks and a comment may
stand. -/
def Value.read (lookup : String → String) (v : Value) : List Char → Option Value
  | [] => some v
  | c :: rest =>
    if v.ended then
      if c = ' ' ∨ c = '\t' then Value.read lookup v rest
      else if c = '#' then some v
      else none
    else match v.next lookup c with
      | some v => Value.read lookup v rest
      | none => none

/-- The value of a text, with references looked up by `lookup`. Open quotes and
braces are refused. -/
def readValue (lookup : String → String) (text : List Char) : Option String := do
  let v ← Value.read lookup ⟨[], false, false, false, false, .none⟩ text
  if v.single || v.double then none
  else match v.reference with
    | .braced _ => none
    | .bare name => some (String.ofList (v.resolve lookup name).output.reverse)
    | .none => some (String.ofList v.output.reverse)

/-! ## Assignments -/

/-- Whether a character can stand in a name behind the first one. -/
def isInnerChar (c : Char) : Bool := c.isAlphanum || c == '_' || c == '.'

/-- A name in front of a text, and the rest. -/
def readName (text : List Char) : Option (String × List Char) :=
  match text with
  | [] => none
  | c :: _ =>
    if c.isAlpha || c == '_'
      then some (String.ofList (text.takeWhile isInnerChar), text.dropWhile isInnerChar)
    else none

/-- The text behind an equals sign, which may have blanks in front of it. -/
def behindEquals (text : List Char) : Option (List Char) :=
  match trimStart text with
  | '=' :: rest => some rest
  | _ => none

/-- What a logical line says. -/
inductive Line where
  /-- Nothing. -/
  | blank
  /-- A name gets a value. -/
  | assignment (name value : String)
  /-- Nothing that can be read. -/
  | invalid

/-- The name that is assigned to, and the text of its value. The word `export`
in front of a name says nothing. -/
def splitAssignment (text : List Char) : Option (String × List Char) := do
  let (name, rest) ← readName text
  match behindEquals rest with
  | some value => return (name, value)
  | none =>
    if name = "export" then
      let (name, rest) ← readName (trimStart rest)
      return (name, ← behindEquals rest)
    else none

/-- Reads a logical line. A missing value is the empty one; a value that
`readValue` refuses makes the line `invalid`. -/
def readLine (lookup : String → String) (line : List Char) : Line :=
  let text := trimStart (trimEnd line)
  if text.isEmpty ∨ text.head? = some '#' then .blank
  else match splitAssignment text with
    | none => .invalid
    | some (name, value) =>
      let value := trimStart value
      if value.isEmpty ∨ value.head? = some '#' then .assignment name ""
      else match readValue lookup value with
        | some value => .assignment name value
        | none => .invalid

/-- The environment with the names that logical lines add. A name that has a
value keeps it; a reference prefers `env` to the values `assigned` in the file.
The first line that cannot be read ends the file. -/
def assign (env assigned : Environment) : List (Option (List Char)) → Environment
  | [] => env
  | none :: _ => env
  | some line :: rest =>
    let lookup (name : String) : String :=
      (env.get? name <|> assigned.lookup name).getD ""
    match readLine lookup line with
    | .blank => assign env assigned rest
    | .invalid => env
    | .assignment name value =>
      let env := if (env.lookup name).isSome then env else env ++ [(name, value)]
      assign env ((name, value) :: assigned) rest

/-- Every run of `isInnerChar`s, hence every name that the file could refer to.
What else an environment holds cannot matter to the file. -/
def mentioned (text : String) : List String :=
  let step (c : Char) : List (List Char) → List (List Char)
    | [] => if isInnerChar c then [[c]] else [[]]
    | run :: others => if isInnerChar c then (c :: run) :: others else [] :: run :: others
  (text.toList.foldr step []).filterMap fun run =>
    if run.isEmpty then none else some (String.ofList run)

/-- The environment with the assignments of a file. A byte order mark in front
does not count. -/
def load (env : Environment) (text : String) : Environment :=
  let text := match text.toList with
    | c :: rest => if c.toNat = 0xFEFF then rest else c :: rest
    | [] => []
  assign env [] (logicalLines [] .plain (rawLines text))

end EnvFile

end ReachMixture.Session
