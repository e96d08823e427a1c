import LineAssembler.FileSystem
import LineAssembler.Proofs.FileMaps
import LineAssembler.Proofs.Results

/-!
# Writing files

A write that succeeds puts a file at the location of its path, where no directory
stood, and leaves every other location alone. Directories are the same before and
after, so a path that leads to a location still leads there, and reading the path that
was written gives what was written. A file system is therefore a map from paths to
contents, in which the paths to one location lead to one file.
-/

namespace LineAssembler.FileSystem

/-- Entries for one location do not matter for another one. By induction on the
entries: one that is dropped would not have been found. -/
theorem lookup_filter_ne (entries : List (Location × Node)) (location other : Location)
    (different : other ≠ location) :
    (entries.filter (·.1 != location)).lookup other = entries.lookup other := by
  induction entries with
  | nil => rfl
  | cons entry rest inductionHypothesis =>
    obtain ⟨place, node⟩ := entry
    by_cases dropped : place = location
    · simp [dropped, List.lookup_cons, inductionHypothesis, beq_false_of_ne different]
    · simp [dropped, List.lookup_cons, inductionHypothesis]

/-- Putting something at a location inside the working directory changes what
stands there and nothing else. The old entries for the location are dropped, and
those for others are still found. -/
theorem node?_insert (files : FileSystem) (location other : Location) (node : Node)
    (inner : location.isOuter = false) :
    (files.insert location node).node? other =
      if other = location then some node else files.node? other := by
  by_cases same : other = location
  · rw [if_pos same, same]
    simp [node?, insert, inner]
  · rw [if_neg same]
    simp only [node?, insert, List.lookup_cons, beq_false_of_ne same,
      lookup_filter_ne files.entries location other same]

/-- One file system is another with a file at a location where no directory
stands. -/
structure Replaces (before after : FileSystem) (location : Location) (bytes : List UInt8) :
    Prop where
  free : before.node? location ≠ some .directory
  nodes : ∀ other, after.node? other =
    if other = location then some (.file bytes) else before.node? other

/-- A write that succeeds replaces what stood at the location of its path. The
cases of a write that are left are a path that is not one of a directory by its
form, that leads to a location, and where no directory stands. -/
theorem replaces_of_write (files after : FileSystem) (path : Path) (bytes : List UInt8)
    (written : files.write path bytes = .ok after) :
    ∃ location, files.locate path = .ok location ∧ files.Replaces after location bytes := by
  unfold write at written
  split at written
  case isTrue =>
    split at written <;> contradiction
  case isFalse =>
    split at written
    case h_1 => contradiction
    case h_2 location located =>
      split at written
      case h_1 => contradiction
      case h_2 free =>
        have inner : location.isOuter = false := by
          cases outer : location.isOuter with
          | false => rfl
          | true => exact absurd (by rw [node?, if_pos outer]) free
        obtain rfl := Except.ok.inj written
        exact ⟨location, located, free, fun other => files.node?_insert location other _ inner⟩

/-- A name is followed exactly from a directory, if it is short enough. A file
or nothing in its place is a fault, whatever the name is. -/
theorem follow_cons_eq_ok_iff (files : FileSystem) (here : Location) (name : Text)
    (names : List Text) (location : Location) :
    files.follow here (name :: names) = .ok location ↔
      files.node? here = some .directory ∧ Path.isShortName name = true ∧
        files.follow (here.step name) names = .ok location := by
  rw [follow]
  cases files.node? here with
  | none => simp
  | some node =>
    cases node with
    | file bytes => simp
    | directory => by_cases short : Path.isShortName name = true <;> simp [short]

namespace Replaces

variable {before after : FileSystem} {location : Location} {bytes : List UInt8}

/-- Replacing a file makes and removes no directory: none stood at the location
before, and a file stands there afterwards. -/
theorem directory_iff (replaces : before.Replaces after location bytes) (place : Location) :
    after.node? place = some .directory ↔ before.node? place = some .directory := by
  rw [replaces.nodes]
  split
  case isTrue same => simp [same, replaces.free]
  case isFalse => rfl

/-- Names lead to the same location as before, since all directories are the
same. By induction on the names, from every location. -/
theorem follow_iff (replaces : before.Replaces after location bytes) (here : Location)
    (names : List Text) (place : Location) :
    after.follow here names = .ok place ↔ before.follow here names = .ok place := by
  induction names generalizing here with
  | nil => rfl
  | cons name names inductionHypothesis =>
    rw [follow_cons_eq_ok_iff, follow_cons_eq_ok_iff, replaces.directory_iff, inductionHypothesis]

/-- A path leads to the same location as before. -/
theorem locate_iff (replaces : before.Replaces after location bytes) (path : Path)
    (place : Location) : after.locate path = .ok place ↔ before.locate path = .ok place := by
  simp only [locate, exceptBind_eq_ok_iff, replaces.follow_iff]

end Replaces

/-- Reading a path gives the bytes of the file at its location. A path that
leads nowhere, to nothing or to a directory is not read. -/
theorem read_eq_ok_iff (files : FileSystem) (path : Path) (bytes : List UInt8) :
    files.read path = .ok bytes ↔
      ∃ location, files.locate path = .ok location ∧
        files.node? location = some (.file bytes) := by
  unfold read
  cases located : files.locate path with
  | error fault => simp
  | ok location =>
    cases found : files.node? location with
    | none => simp [found]
    | some node => cases node <;> simp [found]

/-- What was written to a path is read from it: the path still leads to its
location, and the new file stands there. -/
theorem read_of_write (files after : FileSystem) (path : Path) (bytes : List UInt8)
    (written : files.write path bytes = .ok after) : after.read path = .ok bytes := by
  obtain ⟨location, located, replaces⟩ := files.replaces_of_write after path bytes written
  rw [read_eq_ok_iff]
  refine ⟨location, (replaces.locate_iff path location).mpr located, ?_⟩
  rw [replaces.nodes, if_pos rfl]

/-- What is read from paths that do not lead to the location of a write does not
change. Such a path leads to the same other location as before, at which the
same stands. -/
theorem read_of_apart {files after : FileSystem} {location : Location} {bytes : List UInt8}
    (replaces : files.Replaces after location bytes) (other : Path)
    (apart : files.locate other ≠ .ok location) (content : List UInt8) :
    after.read other = .ok content ↔ files.read other = .ok content := by
  rw [read_eq_ok_iff, read_eq_ok_iff]
  refine exists_congr fun place => ?_
  rw [replaces.locate_iff]
  refine and_congr_right fun located => ?_
  have different : place ≠ location := by
    rintro rfl
    exact apart located
  rw [replaces.nodes, if_neg different]

/-- A file system is a map from paths to the bytes that are read from them. Two
paths lead to one file if they lead to one location; a path that leads nowhere
shares its file with no other path. The laws follow from what a write replaces. -/
def map : FileMap FileSystem where
  content files path := (files.read path).toOption
  Same files left right :=
    left = right ∨ ∃ location, files.locate left = .ok location ∧ files.locate right = .ok location
  same_refl _ _ := Or.inl rfl
  content_of_read files path bytes read := by
    have found : files.read path = .ok bytes := read
    rw [found]
    rfl
  content_of_write files after path bytes written other same := by
    have stored : after.read other = .ok bytes := by
      rcases same with rfl | ⟨location, located, alsoLocated⟩
      · exact files.read_of_write after path bytes written
      · obtain ⟨place, found, replaces⟩ := files.replaces_of_write after path bytes written
        obtain rfl := Except.ok.inj (located.symm.trans found)
        refine (after.read_eq_ok_iff other bytes).mpr
          ⟨location, (replaces.locate_iff other location).mpr alsoLocated, ?_⟩
        rw [replaces.nodes, if_pos rfl]
    rw [stored]
    rfl
  content_elsewhere files after path bytes written other apart := by
    obtain ⟨location, located, replaces⟩ := files.replaces_of_write after path bytes written
    have elsewhere : files.locate other ≠ .ok location :=
      fun shared => apart (Or.inr ⟨location, located, shared⟩)
    exact toOption_congr (read_of_apart replaces other elsewhere)
  same_of_write files after path bytes written left right := by
    obtain ⟨location, _, replaces⟩ := files.replaces_of_write after path bytes written
    simp only [replaces.locate_iff]

end LineAssembler.FileSystem
