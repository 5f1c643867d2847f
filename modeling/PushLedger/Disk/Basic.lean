import PushLedger.Database.Basic
import PushLedger.Disk.Path

/-!
# Disks

A disk is a tree of folders and files. A file holds a database, log lines, or text that is neither.
Paths are followed step by step from the root; a double dot leads back to the folder above the one
that has been reached. On the way, what has been passed is kept as a trail, so that a step in either
direction looks at one folder only.
-/

namespace PushLedger

/-- What a file holds. -/
inductive FileContent
  | text (text : String)
  | database (db : Database)
  | log (lines : List String)
deriving DecidableEq, Repr

/-- A folder or a file. -/
inductive Node
  | folder (entries : List (String × Node))
  | file (content : FileContent)
deriving Repr

/-- Why a folder could not be made or a path not be followed. -/
inductive DiskFault
  | notFound
  | notAFolder
  | alreadyExists
  | nameTooLong
  | nulByte
deriving DecidableEq, Repr

/-- The wording of a fault. -/
def DiskFault.message : DiskFault → String
  | notFound => "No such file or directory (os error 2)"
  | notAFolder => "Not a directory (os error 20)"
  | alreadyExists => "File exists (os error 17)"
  | nameTooLong => "File name too long (os error 36)"
  | nulByte => "file name contained an unexpected NUL byte"

/-- An absolute place on a disk: the names from the root downwards. -/
abbrev Place := List String

/-- The way to a place: its names with what bears them, the last one first. Of what is missing
only the name is known. -/
abbrev Trail := List (String × Option Node)

/-- The place to which a trail leads. -/
def Trail.place (trail : Trail) : Place := (trail.map Prod.fst).reverse

/-- The length of the path to a place. -/
def Trail.pathLength (trail : Trail) : Nat :=
  trail.foldl (fun n passed => n + 1 + passed.1.utf8ByteSize) 0

namespace Node

/-- The node under a name. -/
def child? (entries : List (String × Node)) (name : String) : Option Node :=
  (entries.find? fun entry => entry.1 = name).map Prod.snd

/-- The node is a folder. -/
def isFolder : Node → Bool
  | folder _ => true
  | file _ => false

/-- The content of a file. -/
def content? : Node → Option FileContent
  | folder _ => none
  | file content => some content

/-- What is at a place below a node. -/
def at? (node : Node) : Place → Option Node
  | [] => some node
  | name :: rest =>
      match node with
      | folder entries => (child? entries name).bind fun child => child.at? rest
      | file _ => none

/-- A node with another one at a place below it. Folders on the way there are made; a file on the
way stays as it is. -/
def put (node new : Node) : Place → Node
  | [] => new
  | name :: rest =>
      match node with
      | folder entries =>
          folder ((name, ((child? entries name).getD (folder [])).put new rest) ::
            entries.filter fun entry => entry.1 ≠ name)
      | file content => file content

end Node

/-- Folders and files below a root, which is a folder on every disk. -/
structure Disk where
  entries : List (String × Node)
deriving Repr

namespace Disk

/-- The disk that has only its root. -/
def empty : Disk := ⟨[]⟩

/-- The root. -/
def root (d : Disk) : Node := .folder d.entries

/-- What is at a place. -/
def node? (d : Disk) (place : Place) : Option Node := d.root.at? place

/-- Puts something at a place. The root stays a folder. -/
def put (d : Disk) (place : Place) (new : Node) : Disk :=
  match d.root.put new place with
  | .folder entries => ⟨entries⟩
  | .file _ => d

/-- The content of the file at a place. -/
def file? (d : Disk) (place : Place) : Option FileContent := (d.node? place).bind Node.content?

/-- The names directly under a folder, in order. -/
def names (d : Disk) (place : Place) : List String :=
  match d.node? place with
  | some (.folder entries) => (entries.map Prod.fst).mergeSort fun a b => decide (a ≤ b)
  | _ => []

/-- What a trail leads to. -/
def reached (d : Disk) : Trail → Option Node
  | [] => some d.root
  | passed :: _ => passed.2

/-- The longest name that a file or a folder can have. -/
def longestName : Nat := 255

/-- Goes one step from a folder. -/
def walkStep (d : Disk) (trail : Trail) (step : String) : Except DiskFault Trail :=
  match d.reached trail with
  | none => .error .notFound
  | some (.file _) => .error .notAFolder
  | some (.folder entries) =>
      if step = Path.up then .ok trail.tail
      else if longestName < step.utf8ByteSize then .error .nameTooLong
      else .ok ((step, Node.child? entries step) :: trail)

/-- Follows steps from the root. Every place that is left has to be a folder; the last one may be
missing. -/
def walk (d : Disk) (steps : List String) : Except DiskFault Trail := steps.foldlM d.walkStep []

/-- The steps of a path from the root; a relative path starts at the working folder. -/
def stepsFrom (working : Place) (path : String) : List String :=
  if Path.isAbsolute path then Path.steps path else working ++ Path.steps path

/-- The longest text that is accepted as a path. -/
def longestText : Nat := 4095

/-- Why a text is not accepted as a path. -/
def textFault? (path : String) : Option DiskFault :=
  if path.toList.contains '\x00' then some .nulByte
  else if longestText < path.utf8ByteSize then some .nameTooLong
  else none

/-- Follows a path. -/
def locate (d : Disk) (working : Place) (path : String) : Except DiskFault Trail :=
  match textFault? path with
  | some fault => .error fault
  | none => d.walk (stepsFrom working path)

/-- What a path leads to. An empty path leads nowhere, and one that ends in a slash or in a single
dot does not lead to a file. -/
def find? (d : Disk) (working : Place) (path : String) : Option Node :=
  match d.locate working path with
  | .ok trail =>
      if path.isEmpty then none
      else (d.reached trail).filter fun node => node.isFolder || !Path.namesFolder path
  | .error _ => none

/-- The path leads to a file. -/
def isFile (d : Disk) (working : Place) (path : String) : Bool :=
  (d.find? working path).any fun node => !node.isFolder

/-- The steps lead to a folder. -/
def isFolder (d : Disk) (steps : List String) : Bool :=
  match d.walk steps with
  | .ok trail => (d.reached trail).any Node.isFolder
  | .error _ => false

/-- Makes one folder. A path that ends in a dot names a folder that has to be there already. -/
def makeFolder (d : Disk) (steps : List String) (dotted : Bool) : Except DiskFault Disk :=
  match d.walk steps with
  | .error fault => .error fault
  | .ok trail =>
      match d.reached trail, dotted with
      | some (.folder _), _ => .error .alreadyExists
      | some (.file _), false => .error .alreadyExists
      | some (.file _), true => .error .notAFolder
      | none, true => .error .notFound
      | none, false => .ok (d.put trail.place (.folder []))

/-- Makes a folder and the folders above it, given the steps from the last to the first. A folder
that exists already is as good as one that was made. Folders that were made before a fault stay. -/
def makeFoldersUpwards (d : Disk) (dotted : Bool) : List String → Disk × Except DiskFault Unit
  | [] => (d, .ok ())
  | last :: above =>
      let steps := (last :: above).reverse
      let accept := fun (d : Disk) (fault : DiskFault) =>
        (d, if d.isFolder steps then Except.ok () else .error fault)
      match d.makeFolder steps dotted with
      | .ok made => (made, .ok ())
      | .error .notFound =>
          match d.makeFoldersUpwards false above with
          | (made, .error fault) => (made, .error fault)
          | (made, .ok _) =>
              match made.makeFolder steps dotted with
              | .ok final => (final, .ok ())
              | .error fault => accept made fault
      | .error fault => accept d fault

/-- Makes all folders of an absolute path. -/
def makeFolders (d : Disk) (path : String) : Disk × Except DiskFault Unit :=
  match textFault? path with
  | some fault => (d, .error fault)
  | none => d.makeFoldersUpwards (Path.endsInDot path) (Path.steps path).reverse

end Disk
end PushLedger
