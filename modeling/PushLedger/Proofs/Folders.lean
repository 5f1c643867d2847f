import PushLedger.Disk.FileStore
import PushLedger.Proofs.Statements

/-!
# Folders and files

What is put at a place is found there again, unless a file stands in the way. The files at all other
places stay, if nothing with anything below it had to give way.

A trail is followed downwards only, and a double dot goes back along it. So what a trail has passed is
what the disk holds along its names, and the place at its end can be looked at on the disk as well.
-/

namespace PushLedger

namespace Node

/-- Nothing lies below the node. -/
def isBare : Node → Bool
  | folder entries => entries.isEmpty
  | file _ => true

/-- The node under a name directly below this one. -/
def below? (node : Node) (name : String) : Option Node :=
  match node with
  | folder entries => child? entries name
  | file _ => none

/-- The content of the file at a place below a node. -/
def file? (node : Node) (place : Place) : Option FileContent := (node.at? place).bind content?

/-- A place is reached name by name. -/
theorem at?_cons (node : Node) (name : String) (rest : Place) :
    node.at? (name :: rest) = (node.below? name).bind fun child => child.at? rest := by
  cases node <;> rfl

/-- A file is reached name by name as well. -/
theorem file?_cons (node : Node) (name : String) (rest : Place) :
    node.file? (name :: rest) = (node.below? name).bind fun child => child.file? rest := by
  unfold file?
  rw [at?_cons]
  cases node.below? name <;> rfl

/-- A place below another one is reached by way of that. -/
theorem at?_append (node : Node) (above rest : Place) :
    node.at? (above ++ rest) = (node.at? above).bind fun reached => reached.at? rest := by
  induction above generalizing node with
  | nil => rfl
  | cons name above inductionHypothesis =>
    rw [List.cons_append, at?_cons, at?_cons]
    cases node.below? name with
    | none => rfl
    | some child => exact inductionHypothesis child

/-- Below a bare node there is nothing. -/
theorem below?_of_isBare (node : Node) (bare : node.isBare = true) (name : String) :
    node.below? name = none := by
  cases node with
  | file content => rfl
  | folder entries =>
    obtain rfl := List.isEmpty_iff.mp bare
    rfl

/-- After something was put further down, the way there begins with a changed node, and all other
nodes of the folder are the same. -/
theorem below?_put (entries : List (String × Node)) (new : Node) (name : String) (rest : Place)
    (other : String) : ((folder entries).put new (name :: rest)).below? other =
      if other = name then some (((child? entries name).getD (folder [])).put new rest)
      else child? entries other := by
  by_cases same : other = name
  · subst same
    simp [put, below?, child?]
  · have others : (fun entry : String × Node => !decide (entry.1 = name) && decide (entry.1 = other)) =
        fun entry => decide (entry.1 = other) := by
      funext entry
      by_cases found : entry.1 = other <;> simp [found, same]
    simp [put, below?, child?, same, Ne.symm same, List.find?_filter, others]

/-- An empty folder holds no file. -/
theorem file?_empty (place : Place) : (folder []).file? place = none := by
  cases place <;> rfl

/-- An empty folder holds nothing with anything below it. -/
theorem bare_empty (place : Place) : ((folder []).at? place).all isBare = true := by
  cases place <;> rfl

/-- What is put where no folder has anything in it leaves the files at all other places. -/
theorem file?_put_of_ne (node new : Node) (place : Place) (bare : new.isBare = true)
    (free : (node.at? place).all isBare = true) (other : Place) (apart : other ≠ place) :
    (node.put new place).file? other = node.file? other := by
  induction place generalizing node other with
  | nil =>
    cases other with
    | nil => exact absurd rfl apart
    | cons name rest =>
      have bareNode : node.isBare = true := free
      rw [file?_cons, file?_cons, below?_of_isBare node bareNode]
      exact congrArg (Option.bind · _) (below?_of_isBare new bare name)
  | cons name place inductionHypothesis =>
    cases node with
    | file content => rfl
    | folder entries =>
      cases other with
      | nil => rfl
      | cons first rest =>
        rw [file?_cons, file?_cons, below?_put]
        by_cases same : first = name
        · subst same
          have further : rest ≠ place := fun equal => apart (equal ▸ rfl)
          rw [if_pos rfl]
          cases found : child? entries first with
          | none =>
            -- the folders that are missing on the way are made, and hold nothing else
            have made := inductionHypothesis (folder []) (bare_empty place) rest further
            rw [file?_empty] at made
            simp [found, below?, made]
          | some child =>
            have freeChild : (child.at? place).all isBare = true := by
              simpa [at?_cons, below?, found] using free
            simp [found, below?, inductionHypothesis child freeChild rest further]
        · rw [if_neg same]
          rfl

/-- What is put at a place is there afterwards, or else the place holds what it held before. -/
theorem at?_put (node new : Node) (place : Place) :
    (node.put new place).at? place = some new ∨
      (node.put new place).at? place = node.at? place := by
  induction place generalizing node with
  | nil => exact .inl rfl
  | cons name place inductionHypothesis =>
    cases node with
    | file content => exact .inr rfl
    | folder entries =>
      rw [at?_cons, at?_cons, below?_put, if_pos rfl]
      cases found : child? entries name with
      | some child => simpa [found, below?] using inductionHypothesis child
      | none =>
        rcases inductionHypothesis (folder []) with put | blocked
        · exact .inl put
        · cases place with
          | nil => exact .inl rfl
          | cons next rest =>
            right
            simp only [found, below?, Option.getD_none, Option.bind_some, Option.bind_none]
            exact blocked

/-- Where something was, it gives way to what is put there. -/
theorem at?_put_of_present (node new : Node) (place : Place)
    (present : (node.at? place).isSome = true) : (node.put new place).at? place = some new := by
  induction place generalizing node with
  | nil => rfl
  | cons name place inductionHypothesis =>
    cases node with
    | file content => exact nomatch present
    | folder entries =>
      rw [at?_cons, below?_put, if_pos rfl]
      rw [at?_cons] at present
      cases found : child? entries name with
      | none => simp [below?, found] at present
      | some child =>
        have inside : (child.at? place).isSome = true := by simpa [below?, found] using present
        exact inductionHypothesis child inside

/-- What is put directly into a folder is found there. -/
theorem at?_put_of_folder (node new : Node) (above : Place) (name : String)
    (entries : List (String × Node)) (parent : node.at? above = some (folder entries)) :
    (node.put new (above ++ [name])).at? (above ++ [name]) = some new := by
  induction above generalizing node with
  | nil =>
    obtain rfl : node = folder entries := Option.some.inj parent
    rw [List.nil_append, at?_cons, below?_put, if_pos rfl]
    rfl
  | cons first above inductionHypothesis =>
    cases node with
    | file content => exact nomatch parent
    | folder siblings =>
      rw [List.cons_append, at?_cons, below?_put, if_pos rfl]
      rw [at?_cons] at parent
      cases found : child? siblings first with
      | none => simp [below?, found] at parent
      | some child =>
        have inside : child.at? above = some (folder entries) := by
          simpa [below?, found] using parent
        exact inductionHypothesis child inside

end Node

/-- A step further is one more name of the place. -/
theorem Trail.place_cons (name : String) (passed : Option Node) (above : Trail) :
    Trail.place ((name, passed) :: above) = above.place ++ [name] := by
  simp [place]

namespace Disk

/-- The database in the file at a place. -/
def database? (d : Disk) (place : Place) : Option Database :=
  match d.file? place with
  | some (.database db) => some db
  | _ => none

/-- The databases of a disk are in their files. -/
theorem database?_eq_some_iff (d : Disk) (place : Place) (db : Database) :
    d.database? place = some db ↔ d.file? place = some (.database db) := by
  unfold database?
  split
  · rename_i other held
    rw [held]
    simp
  · rename_i unheld
    simp only [reduceCtorEq, false_iff]
    exact unheld db

/-- The same files hold the same databases. -/
theorem database?_congr {d changed : Disk} {place : Place}
    (same : changed.file? place = d.file? place) :
    changed.database? place = d.database? place := by
  rw [database?, same, database?]

/-- A file is no folder, so nothing lies below it. -/
theorem bare_of_file (d : Disk) (place : Place) (content : FileContent)
    (held : d.file? place = some content) : (d.node? place).all Node.isBare = true := by
  unfold file? at held
  cases found : d.node? place with
  | none => rfl
  | some node =>
    cases node with
    | file content => rfl
    | folder entries => simp [found, Node.content?] at held

section Putting

variable (d : Disk) (new : Node)

/-- What is put on a disk is put below its root. -/
theorem node?_put (place : Place) (below : place ≠ []) (other : Place) :
    (d.put place new).node? other = (d.root.put new place).at? other := by
  cases place with
  | nil => exact absurd rfl below
  | cons name rest => rfl

/-- What is put on a disk where no folder has anything in it leaves all other files. -/
theorem file?_put_of_ne (place : Place) (bare : new.isBare = true)
    (free : (d.node? place).all Node.isBare = true) (other : Place) (apart : other ≠ place) :
    (d.put place new).file? other = d.file? other := by
  cases place with
  | cons name rest => exact d.root.file?_put_of_ne new (name :: rest) bare free other apart
  | nil =>
    -- the root can only give way to an empty folder, and only if it is one
    cases new with
    | file content => rfl
    | folder entries =>
      obtain rfl := List.isEmpty_iff.mp bare
      have empty : d.entries = [] := List.isEmpty_iff.mp free
      have same : d.put [] (.folder []) = d := by rw [put, Node.put, ← empty]
      rw [same]

/-- What is put where nothing was leaves all files and adds at most its own. -/
theorem file?_put_of_absent (place : Place) (bare : new.isBare = true)
    (absent : d.node? place = none) (other : Place) :
    (d.put place new).file? other = d.file? other ∨
      (d.put place new).file? other = new.content? ∧ d.file? other = none := by
  by_cases same : other = place
  · subst same
    cases other with
    | nil => exact nomatch absent
    | cons name rest =>
      have nothing : d.file? (name :: rest) = none := by rw [file?, absent]; rfl
      unfold file?
      rw [d.node?_put new (name :: rest) nofun]
      rcases d.root.at?_put new (name :: rest) with put | blocked
      · right
        rw [put]
        exact ⟨rfl, nothing⟩
      · left
        rw [blocked]
        rfl
  · left
    refine d.file?_put_of_ne new place bare ?_ other same
    rw [absent]
    rfl

/-- A file takes the place of another one. -/
theorem file?_put_of_file (place : Place) (content previous : FileContent)
    (held : d.file? place = some previous) :
    (d.put place (.file content)).file? place = some content := by
  cases place with
  | nil => exact nomatch held
  | cons name rest =>
    have present : (d.node? (name :: rest)).isSome = true := by
      unfold file? at held
      cases found : d.node? (name :: rest) with
      | none => simp [found] at held
      | some node => rfl
    rw [file?, d.node?_put _ (name :: rest) nofun, d.root.at?_put_of_present _ _ present]
    rfl

/-- A file that is put into a folder is found there. -/
theorem file?_put_of_folder (above : Place) (name : String) (content : FileContent)
    (parent : (d.node? above).any Node.isFolder = true) :
    (d.put (above ++ [name]) (.file content)).file? (above ++ [name]) = some content := by
  obtain ⟨entries, found⟩ : ∃ entries, d.node? above = some (.folder entries) := by
    cases found : d.node? above with
    | none => simp [found] at parent
    | some node =>
      cases node with
      | file content => simp [found, Node.isFolder] at parent
      | folder entries => exact ⟨entries, rfl⟩
  rw [file?, d.node?_put _ (above ++ [name]) (by simp),
    d.root.at?_put_of_folder (.file content) above name entries found]
  rfl

end Putting

/-- All places hold the databases that they held before. -/
def KeepsDatabases (before after : Disk) : Prop :=
  ∀ place, after.database? place = before.database? place

/-- What a trail has passed is what the disk holds, each name being one of the folder before it. -/
def Faithful (d : Disk) : Trail → Prop
  | [] => True
  | (name, passed) :: above =>
      passed = (d.reached above).bind (fun node => node.below? name) ∧ d.Faithful above

section Trails

variable {d : Disk} {trail : Trail}

/-- The end of a trail is what the disk holds at its place. -/
theorem Faithful.node?_place (faithful : d.Faithful trail) :
    d.node? trail.place = d.reached trail := by
  induction trail with
  | nil => rfl
  | cons passed above inductionHypothesis =>
    obtain ⟨name, passed⟩ := passed
    obtain ⟨rfl, faithfulAbove⟩ := faithful
    have reached : d.root.at? (Trail.place above) = d.reached above :=
      inductionHypothesis faithfulAbove
    rw [Trail.place_cons, node?, Node.at?_append, reached]
    cases d.reached above with
    | none => rfl
    | some node =>
      change node.at? [name] = node.below? name
      rw [Node.at?_cons]
      exact Option.bind_fun_some _

/-- The way back along a trail is one as well. -/
theorem Faithful.tail (faithful : d.Faithful trail) : d.Faithful trail.tail := by
  cases trail with
  | nil => exact faithful
  | cons passed above => exact faithful.2

/-- A file that is put at the end of a trail is found there, if the trail ends in a folder. -/
theorem Faithful.file?_put (faithful : d.Faithful trail) (below : trail ≠ [])
    (parent : (d.reached trail.tail).any Node.isFolder = true) (content : FileContent) :
    (d.put trail.place (.file content)).file? trail.place = some content := by
  cases trail with
  | nil => exact absurd rfl below
  | cons last above =>
    obtain ⟨name, passed⟩ := last
    have faithfulAbove : d.Faithful above := faithful.tail
    have folder : (d.node? (Trail.place above)).any Node.isFolder = true := by
      rw [faithfulAbove.node?_place]
      exact parent
    rw [Trail.place_cons]
    exact d.file?_put_of_folder _ name content folder

/-- A step from a folder leads to what the folder holds, or back. -/
theorem Faithful.walkStep (faithful : d.Faithful trail) {further : Trail} {step : String}
    (done : d.walkStep trail step = .ok further) : d.Faithful further := by
  unfold Disk.walkStep at done
  split at done
  · exact nomatch done
  · exact nomatch done
  · rename_i entries reached
    split at done
    · exact Except.ok.inj done ▸ faithful.tail
    · split at done
      · exact nomatch done
      · obtain rfl := Except.ok.inj done
        refine ⟨?_, faithful⟩
        rw [reached]
        rfl

/-- A step fails for want of a folder only where there is nothing. -/
theorem reached_of_notFound {step : String} (missing : d.walkStep trail step = .error .notFound) :
    d.reached trail = none := by
  unfold Disk.walkStep at missing
  split at missing
  · assumption
  · exact nomatch missing
  · split at missing
    · exact nomatch missing
    · split at missing <;> exact nomatch missing

/-- A step that passes over what is missing leads to nothing there. -/
theorem Faithful.nameStep (faithful : d.Faithful trail) {further : Trail} {step : String}
    (done : d.nameStep trail step = some further) : d.Faithful further := by
  unfold Disk.nameStep at done
  split at done
  · exact Option.some.inj done ▸ faithful.tail
  · simp only [Option.bind_eq_bind, Option.pure_def] at done
    split at done
    · rename_i next walked
      obtain ⟨_, rfl⟩ : ¬ longestPassage < next.pathLength ∧ next = further := by
        simpa using done
      exact faithful.walkStep walked
    · rename_i missing
      obtain ⟨_, rfl⟩ : ¬ longestPassage < Trail.pathLength ((step, none) :: trail) ∧
          (step, none) :: trail = further := by
        simpa using done
      refine ⟨?_, faithful⟩
      rw [reached_of_notFound missing]
      rfl
    · exact nomatch done

/-- Steps lead along what the disk holds. -/
theorem Faithful.walk (faithful : d.Faithful trail) (steps : List String) {last : Trail}
    (done : steps.foldlM d.walkStep trail = .ok last) : d.Faithful last := by
  induction steps generalizing trail with
  | nil => exact Except.ok.inj done ▸ faithful
  | cons step steps inductionHypothesis =>
    rw [List.foldlM_cons, bind_eq_ok_iff] at done
    obtain ⟨further, stepped, rest⟩ := done
    exact inductionHypothesis (faithful.walkStep stepped) rest

/-- Steps that pass over what is missing lead along what the disk holds as well. -/
theorem Faithful.nameAll (faithful : d.Faithful trail) (steps : List String) {last : Trail}
    (done : steps.foldlM d.nameStep trail = some last) : d.Faithful last := by
  induction steps generalizing trail with
  | nil => exact Option.some.inj done ▸ faithful
  | cons step steps inductionHypothesis =>
    obtain ⟨further, stepped, rest⟩ := Option.bind_eq_some_iff.mp done
    exact inductionHypothesis (faithful.nameStep stepped) rest

/-- The way to a database is along what the disk holds, and it leads away from the root. -/
theorem faithful_databaseTrail {working : Place} {path : String}
    (found : d.databaseTrail? working path = some trail) : d.Faithful trail ∧ trail ≠ [] := by
  obtain ⟨last, named, kept⟩ := Option.bind_eq_some_iff.mp found
  split at kept
  · exact nomatch kept
  · rename_i fit
    obtain rfl := Option.some.inj kept
    have start : d.Faithful [] := trivial
    refine ⟨start.nameAll _ named, ?_⟩
    rintro rfl
    exact fit (.inl rfl)

end Trails

/-- A folder is made only where nothing was, so all files stay. -/
theorem file?_makeFolder {d made : Disk} {steps : List String} {dotted : Bool}
    (done : d.makeFolder steps dotted = .ok made) (place : Place) :
    made.file? place = d.file? place := by
  unfold makeFolder at done
  split at done
  · exact nomatch done
  · rename_i trail walked
    have start : d.Faithful [] := trivial
    have faithful := start.walk steps walked
    split at done
    · exact nomatch done
    · exact nomatch done
    · exact nomatch done
    · exact nomatch done
    · rename_i reached
      obtain rfl := Except.ok.inj done
      have absent : d.node? trail.place = none := faithful.node?_place.trans reached
      rcases d.file?_put_of_absent (.folder []) trail.place rfl absent place with
        same | ⟨added, nothing⟩
      · exact same
      · rw [added, nothing]
        rfl

/-- Folders are made one in another, and all files stay. -/
theorem file?_makeFoldersUpwards (d : Disk) (dotted : Bool) (steps : List String) (place : Place) :
    (d.makeFoldersUpwards dotted steps).1.file? place = d.file? place := by
  induction steps generalizing dotted with
  | nil => rfl
  | cons last above inductionHypothesis =>
    rw [makeFoldersUpwards]
    split
    · rename_i made done
      exact file?_makeFolder done place
    · -- the folder above was missing, so the ones before it are made first
      have earlier := inductionHypothesis false
      split
      · rename_i made fault upwards
        rw [upwards] at earlier
        exact earlier
      · rename_i made upwards
        rw [upwards] at earlier
        split
        · rename_i final done
          exact (file?_makeFolder done place).trans earlier
        · exact earlier
    · rfl

/-- All files stay when the folders of a path are made. -/
theorem file?_makeFolders (d : Disk) (path : String) (place : Place) :
    (d.makeFolders path).1.file? place = d.file? place := by
  unfold makeFolders
  split
  · rfl
  · exact d.file?_makeFoldersUpwards _ _ place

end Disk
end PushLedger
