import LineAssembler.FileStore
import LineAssembler.Text.Utf8

/-!
# Stores of files as maps

What the files of a store hold is a map from paths to contents, in which several paths may
lead to one file. A write that is granted changes the contents of all paths that lead to
the file written and of no other path; a write that is refused yields no store at all.
Which paths lead to one file does not depend on what the files hold.

Refusals are no part of a map. A guard in front of a store may refuse any request, by any
fault, and the guarded store is seen as the same map.

Lines may be written under two names, one after the other, and an empty name asks for no
file. If both names lead to one file, the later lines stand there.
-/

namespace LineAssembler

variable {σ : Type} [FileStore σ]

/-- A view of the stores of a type as maps from paths to contents. Reading and
writing agree with the map whenever they are granted; nothing is asked of a
request that is refused. -/
structure FileMap (σ : Type) [FileStore σ] where
  /-- The bytes of the file at a path, if there is one. -/
  content : σ → Path → Option (List UInt8)
  /-- Two paths lead to one file. -/
  Same : σ → Path → Path → Prop
  same_refl (files : σ) (path : Path) : Same files path path
  content_of_read (files : σ) (path : Path) (bytes : List UInt8) :
    FileStore.read files path = .ok bytes → content files path = some bytes
  content_of_write (files after : σ) (path : Path) (bytes : List UInt8) :
    FileStore.write files path bytes = .ok after →
      ∀ other, Same files path other → content after other = some bytes
  content_elsewhere (files after : σ) (path : Path) (bytes : List UInt8) :
    FileStore.write files path bytes = .ok after →
      ∀ other, ¬Same files path other → content after other = content files other
  same_of_write (files after : σ) (path : Path) (bytes : List UInt8) :
    FileStore.write files path bytes = .ok after →
      ∀ left right, Same after left right ↔ Same files left right

/-! ## Refusals -/

/-- A store behind a guard. The guard may refuse to read a path, and it may
refuse a write by its path and by the number of writes granted before: a file
that may only be read, or a medium that is full. -/
structure Guarded (σ : Type) where
  files : σ
  writes : Nat
  refusesRead : Path → Option AccessFault
  refusesWrite : Nat → Path → Option AccessFault

/-- What the guard does not refuse is answered by the store behind it. -/
instance : FileStore (Guarded σ) where
  read guarded path :=
    match guarded.refusesRead path with
    | some fault => .error fault
    | none => FileStore.read guarded.files path
  write guarded path bytes :=
    match guarded.refusesWrite guarded.writes path with
    | some fault => .error fault
    | none => (FileStore.write guarded.files path bytes).map fun files =>
      { guarded with files, writes := guarded.writes + 1 }

/-- A read that is granted is granted by the store behind the guard, since the
guard itself grants nothing. -/
theorem Guarded.read_eq_ok {guarded : Guarded σ} {path : Path} {bytes : List UInt8}
    (read : FileStore.read guarded path = .ok bytes) :
    FileStore.read guarded.files path = .ok bytes := by
  simp only [FileStore.read] at read
  split at read
  case h_1 => contradiction
  case h_2 => exact read

/-- A write that is granted is granted by the store behind the guard. The
guarded store afterwards holds the store that the write came to. -/
theorem Guarded.write_eq_ok {guarded after : Guarded σ} {path : Path} {bytes : List UInt8}
    (written : FileStore.write guarded path bytes = .ok after) :
    FileStore.write guarded.files path bytes = .ok after.files := by
  simp only [FileStore.write] at written
  split at written
  case h_1 => contradiction
  case h_2 =>
    cases inner : FileStore.write guarded.files path bytes with
    | error fault =>
      rw [inner] at written
      contradiction
    | ok files =>
      rw [inner] at written
      obtain rfl := Except.ok.inj written
      rfl

/-- A guarded store is seen as the map of the store behind the guard. So the
laws of a map hold whatever is refused. -/
def FileMap.guarded (map : FileMap σ) : FileMap (Guarded σ) where
  content guarded := map.content guarded.files
  Same guarded := map.Same guarded.files
  same_refl guarded := map.same_refl guarded.files
  content_of_read _ path bytes read := map.content_of_read _ path bytes (Guarded.read_eq_ok read)
  content_of_write _ _ path bytes written :=
    map.content_of_write _ _ path bytes (Guarded.write_eq_ok written)
  content_elsewhere _ _ path bytes written :=
    map.content_elsewhere _ _ path bytes (Guarded.write_eq_ok written)
  same_of_write _ _ path bytes written :=
    map.same_of_write _ _ path bytes (Guarded.write_eq_ok written)

/-! ## Lines under names -/

namespace FileStore

/-- Lines are written under a name, each ended by a line feed. An empty name
asks for nothing, and the store stays as it is. -/
inductive Writes (files : σ) (name : Text) (lines : List Text) : σ → Prop where
  | unasked (empty : name = []) : Writes files name lines files
  | granted (path : Path) (after : σ) (named : path.text = name) (nonempty : name ≠ [])
    (written : FileStore.write files path (Text.Utf8.encode (Text.ofLines lines)) = .ok after) :
    Writes files name lines after

/-- Lines are to be written under a name, and the store refuses them. -/
inductive Refuses (files : σ) (name : Text) (lines : List Text) : AccessFault → Prop where
  | intro (path : Path) (fault : AccessFault) (named : path.text = name) (nonempty : name ≠ [])
    (refused : FileStore.write files path (Text.Utf8.encode (Text.ofLines lines)) =
      .error fault) : Refuses files name lines fault

/-- A name that holds no null character is served: its lines are written or
refused. An empty name counts as written, as nothing is asked for. -/
theorem writes_or_refuses (files : σ) (name : Text) (lines : List Text)
    (nameable : '\x00' ∉ name) :
    (∃ after, Writes files name lines after) ∨ ∃ fault, Refuses files name lines fault := by
  by_cases empty : name = []
  · exact Or.inl ⟨files, .unasked empty⟩
  · cases written : FileStore.write files ⟨name, nameable⟩
        (Text.Utf8.encode (Text.ofLines lines)) with
    | error fault => exact Or.inr ⟨fault, .intro ⟨name, nameable⟩ fault rfl empty written⟩
    | ok after => exact Or.inl ⟨after, .granted ⟨name, nameable⟩ after rfl empty written⟩

end FileStore

/-! ## What a map shows of written lines -/

namespace FileMap

/-- A path leads to the file that a name asks for. An empty name asks for none. -/
def Reaches (map : FileMap σ) (files : σ) (name : Text) (path : Path) : Prop :=
  ∃ asked : Path, asked.text = name ∧ name ≠ [] ∧ map.Same files asked path

/-- A map before and after lines were written under a name: the file that the
name asks for holds the lines, on whatever path it is looked at, and no other
file has changed. -/
structure Updates (map : FileMap σ) (before after : σ) (name : Text) (lines : List Text) :
    Prop where
  written (path : Path) : map.Reaches before name path →
    map.content after path = some (Text.Utf8.encode (Text.ofLines lines))
  kept (path : Path) : ¬map.Reaches before name path →
    map.content after path = map.content before path

/-- A map before and after lines were written under two names in turn. The later
lines stand in their file; the earlier lines stand in theirs, unless it is the
same file; and no other file has changed. -/
structure UpdatesTwice (map : FileMap σ) (before after : σ) (earlier later : Text)
    (earlierLines laterLines : List Text) : Prop where
  laterWritten (path : Path) : map.Reaches before later path →
    map.content after path = some (Text.Utf8.encode (Text.ofLines laterLines))
  earlierWritten (path : Path) : map.Reaches before earlier path →
    ¬map.Reaches before later path →
      map.content after path = some (Text.Utf8.encode (Text.ofLines earlierLines))
  kept (path : Path) : ¬map.Reaches before earlier path → ¬map.Reaches before later path →
    map.content after path = map.content before path

/-- Writing lines changes no file's paths: a name asks for the same file as
before. A map has this as a law for every single write. -/
theorem reaches_of_writes (map : FileMap σ) {files after : σ} {name : Text} {lines : List Text}
    (writes : FileStore.Writes files name lines after) (other : Text) (path : Path) :
    map.Reaches after other path ↔ map.Reaches files other path := by
  cases writes with
  | unasked => rfl
  | granted _ _ _ _ written => simp only [Reaches, map.same_of_write _ _ _ _ written]

/-- Lines that are written update the map. Nothing is reached under an empty
name, so nothing need change; a name that was granted has one path, to which the
laws of the map apply. -/
theorem updates_of_writes (map : FileMap σ) {files after : σ} {name : Text} {lines : List Text}
    (writes : FileStore.Writes files name lines after) : map.Updates files after name lines := by
  cases writes with
  | unasked empty =>
    refine ⟨?_, fun _ _ => rfl⟩
    rintro path ⟨_, _, nonempty, _⟩
    exact absurd empty nonempty
  | granted asked _ named nonempty written =>
    constructor
    · rintro path ⟨_, alsoNamed, _, same⟩
      obtain rfl := Path.ext (named.trans alsoNamed.symm)
      exact map.content_of_write _ _ _ _ written path same
    · intro path apart
      have different : ¬map.Same files asked path :=
        fun same => apart ⟨asked, named, nonempty, same⟩
      exact map.content_elsewhere _ _ _ _ written path different

/-- Lines that are written under two names in turn update the map twice. The
second write finds every name at the file where the first write found it, so a
file that only the first name asks for keeps its lines. -/
theorem updatesTwice_of_writes (map : FileMap σ) {before between after : σ}
    {earlier later : Text} {earlierLines laterLines : List Text}
    (first : FileStore.Writes before earlier earlierLines between)
    (second : FileStore.Writes between later laterLines after) :
    map.UpdatesTwice before after earlier later earlierLines laterLines := by
  have reaches := map.reaches_of_writes first later
  have firstly := map.updates_of_writes first
  have secondly := map.updates_of_writes second
  refine ⟨?_, ?_, ?_⟩
  · intro path reached
    exact secondly.written path ((reaches path).mpr reached)
  · intro path reached apart
    rw [secondly.kept path (mt (reaches path).mp apart), firstly.written path reached]
  · intro path apartEarlier apartLater
    rw [secondly.kept path (mt (reaches path).mp apartLater), firstly.kept path apartEarlier]

end FileMap

end LineAssembler
