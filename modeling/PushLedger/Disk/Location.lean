import PushLedger.Disk.Path
import PushLedger.Table.Fault

/-!
# Locations of databases

A location is a plain path, or a text that begins with `file:` and may hold escaped bytes, an
authority, a query and a fragment. The query says how the file may be used; on the access and the
file system the last word counts, on everything else the first, and nobody may ask for more access
than before. A location without a path, and one that asks for memory, is a database that nobody else
can see.
-/

namespace PushLedger

/-- What may be done with a file. -/
inductive Access
  | readOnly | readWrite | create | memory
deriving DecidableEq, Repr

namespace Access

/-- How much an access grants. Memory grants everything, but cannot be refused either. -/
def rank : Access → Nat
  | readOnly => 1
  | readWrite => 2
  | create => 3
  | memory => 4

/-- The access of a mode. -/
def ofMode? : String → Option Access
  | "ro" => some readOnly
  | "rw" => some readWrite
  | "rwc" => some create
  | "memory" => some memory
  | _ => none

end Access

/-- Where a database is and how it may be used. -/
structure Location where
  path : String
  access : Access := .create
  /-- The file is taken to be unchangeable. -/
  immutable : Bool := false
  /-- The file system keeps everything in memory. -/
  volatile : Bool := false
  /-- A folder beside the file, with a longer name, is its lock. -/
  lockedBeside : Bool := false
  /-- What a new file takes its permissions from. -/
  pattern : Option String := none
deriving DecidableEq, Repr

namespace Location

/-- The value of a hexadecimal digit, as a byte. -/
def hexValue? (b : UInt8) : Option UInt8 :=
  if 48 ≤ b ∧ b ≤ 57 then some (b - 48)
  else if 65 ≤ b ∧ b ≤ 70 then some (b - 55)
  else if 97 ≤ b ∧ b ≤ 102 then some (b - 87)
  else none

/-- Bytes with the escaped ones in plain form. An escaped zero ends the text. -/
def unescape : List UInt8 → List UInt8
  | [] => []
  | 37 :: a :: b :: rest =>
      match hexValue? a, hexValue? b with
      | some high, some low =>
          if high * 16 + low = 0 then [] else (high * 16 + low) :: unescape rest
      | _, _ => 37 :: unescape (a :: b :: rest)
  | b :: rest => b :: unescape rest

/-- Bytes as text. Bytes that are no text stand for the characters of their values. -/
def textOf (bytes : List UInt8) : String :=
  match String.fromUTF8? ⟨bytes.toArray⟩ with
  | some text => text
  | none => String.ofList (bytes.map fun b => Char.ofNat b.toNat)

/-- The bytes before the first occurrence of one, and those after it. -/
def splitAt (mark : UInt8) (bytes : List UInt8) : List UInt8 × List UInt8 :=
  (bytes.takeWhile (· ≠ mark), (bytes.dropWhile (· ≠ mark)).drop 1)

/-- The parts between occurrences of a byte. -/
def splitAll (mark : UInt8) (bytes : List UInt8) : List (List UInt8) :=
  bytes.foldr (fun b parts =>
    match parts with
    | part :: rest => if b = mark then [] :: part :: rest else (b :: part) :: rest
    | [] => [[b]]) [[]]

/-- The names and values of a query, in order; what has no name is left out. -/
def queryItems (query : List UInt8) : List (String × String) :=
  (splitAll 38 query).filterMap fun item =>
    let (name, value) := splitAt 61 item
    let name := unescape name
    if name.isEmpty then none else some (textOf name, textOf (unescape value))

/-- What follows the authority, if there is one. Only this machine may be named. -/
def afterAuthority : List UInt8 → Except StorageFault (List UInt8)
  | 47 :: 47 :: rest =>
      let authority := textOf (rest.takeWhile (· ≠ 47))
      if authority = "" ∨ authority = "localhost" then .ok (rest.dropWhile (· ≠ 47))
      else .error (.foreignAuthority authority)
  | rest => .ok rest

/-- The file system that locks a file by a folder beside it. -/
def besideLocking : String := "unix-dotfile"

/-- The file systems that keep files on the disk. -/
def fileSystems : List String := ["unix", "unix-none", besideLocking, "unix-excl"]

/-- The words that switch something on. A number does so if its last byte is not zero. -/
def switchesOn (value : String) : Bool :=
  match value.toList with
  | c :: _ =>
      if c.isDigit then
        let digits := (value.toList.takeWhile Char.isDigit).foldl
          (fun n d => n * 10 + (d.toNat - '0'.toNat)) 0
        digits % 256 ≠ 0
      else ["on", "yes", "true"].contains (value.map Char.toLower)
  | [] => false

/-- Applies one item of a query. The file system is looked at later. -/
def adjust (location : Location) (item : String × String) : Except StorageFault Location :=
  match item with
  | ("cache", value) =>
      if value = "shared" ∨ value = "private" then .ok location
      else .error (.noMode "cache" value)
  | ("mode", value) =>
      match Access.ofMode? value with
      | none => .error (.noMode "access" value)
      | some access =>
          if access = .memory ∨ access.rank ≤ location.access.rank then
            .ok { location with access }
          else .error (.modeNotAllowed value)
  | _ => .ok location

/-- The value of the first item of a name. -/
def firstValue? (items : List (String × String)) (name : String) : Option String :=
  (items.find? fun item => item.1 = name).map Prod.snd

/-- The first item of the name switches something on. -/
def isSwitchedOn (items : List (String × String)) (name : String) : Bool :=
  (firstValue? items name).any switchesOn

/-- Sets the file system that the last item about it names. A file that is taken to be unchangeable
needs no lock, and a lock may be declined. -/
def choose (location : Location) (items : List (String × String)) :
    Except StorageFault Location :=
  match firstValue? items.reverse "vfs" with
  | none => .ok location
  | some name =>
      if name = "memdb" then .ok { location with volatile := true }
      else if fileSystems.contains name then
        .ok { location with
          lockedBeside := name == besideLocking && !location.immutable &&
            !isSwitchedOn items "nolock" }
      else .error (.noFileSystem name)

/-- The location that a text after `file:` names. -/
def ofUri (text : List UInt8) : Except StorageFault Location := do
  let rest ← afterAuthority text
  let (path, query) := splitAt 63 (splitAt 35 rest).1
  let items := queryItems query
  let start : Location :=
    { path := textOf (unescape path)
      immutable := isSwitchedOn items "immutable"
      pattern := firstValue? items "modeof" }
  (← items.foldlM adjust start).choose items

/-- The location that a text names. -/
def ofText (text : String) : Except StorageFault Location :=
  match Path.nulPosition? text with
  | some position => .error (.nulByte position)
  | none =>
      match text.toUTF8.toList with
      | 102 :: 105 :: 108 :: 101 :: 58 :: rest => ofUri rest
      | _ => .ok { path := text }

/-- The database is nobody else's. -/
def isPrivate (location : Location) : Bool :=
  location.path = "" || location.path = ":memory:" || location.access = .memory ||
    location.volatile

end Location
end PushLedger
