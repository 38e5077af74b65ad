import ReachMixture.Text.Pieces

/-!
# Volumes

A picture of the places a text can be written to: directories, files and
devices. It is enough to say what happens when a text is written to a path.

- `Refusal`: why a system refuses to write.
- `Node`, `Volume`: what is where.
- `Volume.create`: opens a path for writing.
- `Volume.write`: puts a text into an open place.
- `Volume.read?`: the text of a file.
-/

namespace ReachMixture.Session

/-! ## Refusals -/

/-- Why a system refuses to open or to write. -/
inductive Refusal where
  /-- Something on the way does not exist. -/
  | notFound
  /-- A device fails. -/
  | broken
  /-- A device is not connected. -/
  | noDevice
  /-- The path is protected. -/
  | denied
  /-- Something on the way is no directory. -/
  | notDirectory
  /-- The path leads to a directory. -/
  | isDirectory
  /-- The place takes no text of this kind. -/
  | invalid
  /-- The place is a program that runs. -/
  | running
  /-- There is no room. -/
  | noSpace
  /-- The device or volume cannot be written to. -/
  | readOnly
  /-- A path or a name in it is too long. -/
  | nameTooLong
  /-- A path holds a character that ends texts of the system. -/
  | nulInPath
deriving DecidableEq

/-- The system's number of a refusal; a path that the system never sees has
none. -/
def Refusal.code? : Refusal → Option Nat
  | .notFound => some 2
  | .broken => some 5
  | .noDevice => some 6
  | .denied => some 13
  | .notDirectory => some 20
  | .isDirectory => some 21
  | .invalid => some 22
  | .running => some 26
  | .noSpace => some 28
  | .readOnly => some 30
  | .nameTooLong => some 36
  | .nulInPath => none

/-- The words of a refusal, without its number. -/
def Refusal.words : Refusal → String
  | .notFound => "No such file or directory"
  | .broken => "Input/output error"
  | .noDevice => "No such device or address"
  | .denied => "Permission denied"
  | .notDirectory => "Not a directory"
  | .isDirectory => "Is a directory"
  | .invalid => "Invalid argument"
  | .running => "Text file busy"
  | .noSpace => "No space left on device"
  | .readOnly => "Read-only file system"
  | .nameTooLong => "File name too long"
  | .nulInPath => "file name contained an unexpected NUL byte"

/-- The wording of a refusal: `words (os error code)`. -/
def Refusal.message (r : Refusal) : String :=
  match r.code? with
  | some code => r.words ++ " (os error " ++ toString code ++ ")"
  | none => r.words

/-- The refusals that come from a system, hence have a `code?`. -/
def Refusal.all : List Refusal :=
  [.notFound, .broken, .noDevice, .denied, .notDirectory, .isDirectory, .invalid,
    .running, .noSpace, .readOnly, .nameTooLong]

/-! ## Places -/

/-- A path from the top, the last name first. -/
abbrev Trail := List String

/-- What is at a `Trail`. -/
inductive Node where
  /-- A directory, and why it takes no new files if it takes none. -/
  | directory (closed : Option Refusal)
  /-- A file with its text. -/
  | file (text : String)
  /-- A device that keeps nothing, and why it cannot be opened or written to. -/
  | device (onOpen onWrite : Option Refusal)
  /-- Another name for what is at the end of a trail, which is no such name
  itself. -/
  | link (target : Trail)

/-- A file system: nodes by trail, and a current directory. The top is always a
directory. -/
structure Volume where
  /-- What is where. -/
  nodes : List (Trail × Node)
  /-- Where relative paths begin. -/
  current : Trail

namespace Volume

/-- The longest path in bytes, the zero byte that ends it included. -/
def pathLimit : Nat := 4096

/-- The longest name in bytes. -/
def nameLimit : Nat := 255

/-- The node at the end of a trail; the top is an open directory. -/
def at? (v : Volume) (t : Trail) : Option Node :=
  if t.isEmpty then some (.directory none)
  else (v.nodes.find? fun n => n.1 == t).map Prod.snd

/-- The trail one name further: `.` stays, `..` goes back. -/
def follow (t : Trail) (name : String) : Trail :=
  if name = "." then t else if name = ".." then t.tail else name :: t

/-- The trail itself, or the target of the link at its end. -/
def resolve (v : Volume) (t : Trail) : Trail :=
  match v.at? t with
  | some (.link target) => target
  | _ => t

/-- Follows names from `t` on, through directories only. -/
def enter (v : Volume) (t : Trail) : List String → Except Refusal Trail
  | [] => .ok t
  | name :: rest =>
    if nameLimit < name.utf8ByteSize then .error .nameTooLong
    else
      let t := v.resolve (follow t name)
      match v.at? t with
      | none => .error .notFound
      | some (.directory _) => v.enter t rest
      | some _ => .error .notDirectory

/-- A path taken apart. -/
structure Route where
  /-- Where it begins. -/
  start : Trail
  /-- The names up to the last. -/
  parents : List String
  /-- The last name. -/
  last : String
  /-- It ends in a slash and so can only be a directory. -/
  slash : Bool

/-- The parts of a path; slashes in a row count as one. A path of slashes only
leads to `.`. -/
def route (v : Volume) (path : String) : Route :=
  let pieces := (Text.pieces '/' path.toList).map String.ofList
  let names := pieces.filter (· ≠ "")
  { start := if pieces.head? = some "" then [] else v.current
    parents := names.dropLast
    last := names.getLastD "."
    slash := pieces.getLast? = some "" }

/-- The directory that holds the end of a path, once the path has been found to
have no zero byte, to be short enough and not empty. -/
def parent (v : Volume) (path : String) : Except Refusal Trail :=
  if path.toList.any fun c => c.toNat = 0 then .error .nulInPath
  else if pathLimit ≤ path.utf8ByteSize then .error .nameTooLong
  else if path.isEmpty then .error .notFound
  else
    let r := v.route path
    v.enter r.start r.parents

/-- Puts `node` at `t`, in place of what is there. -/
def put (v : Volume) (t : Trail) (node : Node) : Volume :=
  { v with nodes := (t, node) :: v.nodes.filter fun n => n.1 != t }

/-- Opens a path for writing and empties it; the `Trail` is where it leads. A
slash at the end is refused whatever the path leads to. -/
def create (v : Volume) (path : String) : Except Refusal (Volume × Trail) := do
  let directory ← v.parent path
  let r := v.route path
  if r.slash then .error .isDirectory
  else if nameLimit < r.last.utf8ByteSize then .error .nameTooLong
  else
    let t := v.resolve (follow directory r.last)
    match v.at? t with
    | some (.directory _) => .error .isDirectory
    | some (.file _) => .ok (v.put t (.file ""), t)
    | some (.device none _) => .ok (v, t)
    | some (.device (some refusal) _) => .error refusal
    | some (.link _) => .error .notFound
    | none =>
      match v.at? directory with
      | some (.directory (some refusal)) => .error refusal
      | _ => .ok (v.put t (.file ""), t)

/-- Appends `text` to the file at `t`. A device keeps nothing, and may refuse. -/
def write (v : Volume) (t : Trail) (text : String) : Except Refusal Volume :=
  match v.at? t with
  | some (.file old) => .ok (v.put t (.file (old ++ text)))
  | some (.device _ (some refusal)) => .error refusal
  | _ => .ok v

/-- The text of the file at a path. -/
def read? (v : Volume) (path : String) : Option String := do
  let directory ← (v.parent path).toOption
  let r := v.route path
  if r.slash then none
  else match v.at? (v.resolve (follow directory r.last)) with
    | some (.file text) => some text
    | _ => none

/-- The volume with one more file in its current directory. -/
def addFile (v : Volume) (name text : String) : Volume :=
  v.put (name :: v.current) (.file text)

end Volume

end ReachMixture.Session
