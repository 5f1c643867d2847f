/-!
# Paths

A path is text with slashes. What counts are its steps: the parts between the slashes without the
empty ones and without single dots. Two absolute paths are equal when their steps are; a double dot
is a step like any other, because what it means depends on the disk.
-/

namespace PushLedger.Path

/-- The parts between slashes. -/
def parts (path : String) : List String :=
  let step := fun (c : Char) (state : List Char × List String) =>
    if c = '/' then ([], String.ofList state.1 :: state.2) else (c :: state.1, state.2)
  let (first, rest) := path.toList.foldr step ([], [])
  String.ofList first :: rest

/-- The steps of a path. -/
def steps (path : String) : List String :=
  (parts path).filter fun part => part ≠ "" && part ≠ "."

/-- A path that starts at the root. -/
def isAbsolute (path : String) : Bool := path.toList.head? == some '/'

/-- Two absolute paths that lead along the same steps. -/
def same (a b : String) : Bool := steps a == steps b

/-- The last part that is not empty is a single dot. -/
def endsInDot (path : String) : Bool :=
  ((parts path).filter (· ≠ "")).getLast? == some "."

/-- The path ends in a slash or in a single dot, so that only a folder can be meant. -/
def namesFolder (path : String) : Bool :=
  match (parts path).getLast? with
  | some last => last = "" || last = "."
  | none => false

/-- The step that leads back. -/
def up : String := ".."

/-- The position of the first NUL byte of a text in its UTF-8 form. -/
def nulPosition? (text : String) : Option Nat :=
  if text.toList.contains '\x00' then
    some (String.ofList (text.toList.takeWhile (· ≠ '\x00'))).utf8ByteSize
  else none

end PushLedger.Path
