import LineAssembler.Proofs.FileWrites
import LineAssembler.Proofs.LineAccounting
import LineAssembler.Proofs.RunCourses

/-!
# Outcomes of a run

The exit status of a run tells its course. It is 2 if the source cannot be read, 1 if there
are diagnostics, 3 if the store refuses a listing of the words and 0 if the words are
delivered; there is none if the digit limit ends the assembly. Only the courses of 3 and 0
may change files, each only those that were asked for.

The store may refuse any request, at any path and for any reason, and what it refuses may
change with every write. What the files hold is told by every map as which the store can be
seen. A name with a null character is no path; a run that comes to one has no status either.
-/

namespace LineAssembler.CommandLine

variable {σ : Type} [FileStore σ]

/-- No name that the options give holds a null character, so all can be handed
to a store. -/
structure Options.NamesPaths (options : Options) : Prop where
  source : '\x00' ∉ options.source
  outHex : '\x00' ∉ options.outHex
  outBin : '\x00' ∉ options.outBin

/-- The contract of a run: which exit status it comes to, what it prints on
standard error, and what it does to the files. -/
structure Outcome.Follows (outcome : Outcome σ) (options : Options) (files : σ) : Prop where
  /-- The status is 2 exactly when the source cannot be read. -/
  unreadable : outcome.status = .ok 2 ↔ ∃ fault, Unreadable files options.source fault
  /-- There is no status by the digit limit exactly when it ends the assembly. -/
  escaping (limit : DigitLimit) : outcome.status = .error (.limit limit) ↔
    ∃ text, options.Assembles files text (.error limit)
  /-- There is no status for another cause only when a name is no path. -/
  aborting (abort : Abort) : outcome.status = .error abort →
    (∃ limit, abort = .limit limit) ∨ abort = .nullCharacter ∧ ¬options.NamesPaths
  /-- The status is 1 exactly when there are diagnostics. -/
  reporting : outcome.status = .ok 1 ↔
    ∃ text assembly, options.Assembles files text (.ok assembly) ∧ assembly.diagnostics ≠ []
  /-- The status is 3 exactly when there are none and the store refuses a
  listing. -/
  refusing : outcome.status = .ok 3 ↔
    ∃ text words, options.Assembles files text (.ok ⟨words, []⟩) ∧
      ∃ name fault after, options.Refused files words name fault after
  /-- The status is 0 exactly when there are none and each listing is written. -/
  delivering : outcome.status = .ok 0 ↔
    ∃ text words, options.Assembles files text (.ok ⟨words, []⟩) ∧
      ∃ after, options.Delivers files words after
  /-- No file changes unless there are words to write. -/
  untouched : outcome.status ≠ .ok 3 → outcome.status ≠ .ok 0 →
    outcome.status ≠ .error .nullCharacter → outcome.files = files
  /-- It is printed why the source cannot be read. -/
  explains (fault : SourceFault) : Unreadable files options.source fault →
    outcome.stderr = fault.render options.source
  /-- Every diagnostic is printed once, in the order of the lines. -/
  reports (text : Text) (assembly : Assembly) : options.Assembles files text (.ok assembly) →
    assembly.diagnostics ≠ [] →
      outcome.stderr = tracing options.verbose assembly.words ++
        Text.ofLines (assembly.diagnostics.map Diagnostic.render) ∧
      (assembly.diagnostics.map Diagnostic.line).Pairwise (· < ·)
  /-- The refusal is printed, and before it at most the hexadecimal words were
  written. -/
  refuses (text : Text) (words : List Encoded) (name : Text) (fault : AccessFault) (after : σ) :
    options.Assembles files text (.ok ⟨words, []⟩) →
    options.Refused files words name fault after →
      outcome.files = after ∧
      outcome.stderr = tracing options.verbose words ++ renderRefusal name fault ∧
      (after = files ∨ ∀ map : FileMap σ,
        map.Updates files after options.outHex (Listing.hexadecimalLines words))
  /-- The words are written as asked, and their number is announced. -/
  delivers (text : Text) (words : List Encoded) (after : σ) :
    options.Assembles files text (.ok ⟨words, []⟩) → options.Delivers files words after →
      outcome.files = after ∧
      outcome.stderr = tracing options.verbose words ++
        announcement options.verbose words.length options.source ∧
      ∀ map : FileMap σ,
        map.UpdatesTwice files after options.outHex options.outBin
          (Listing.hexadecimalLines words) (Listing.binaryLines words)

namespace Options

variable {options : Options} {files : σ}

/-- Where words are blocked, a name is no path: that of either output. -/
theorem Blocked.not_namesPaths {words : List Encoded} {after : σ}
    (blocked : options.Blocked files words after) : ¬options.NamesPaths := by
  intro names
  cases blocked with
  | hexadecimal null => exact names.outHex null
  | binary _ _ null => exact names.outBin null

/-- Where words are delivered, both listings have been written, one after the
other. This is seen in every map of the store, also where both names lead to one
file. -/
theorem Delivers.updatesTwice {words : List Encoded} {after : σ}
    (delivers : options.Delivers files words after) (map : FileMap σ) :
    map.UpdatesTwice files after options.outHex options.outBin
      (Listing.hexadecimalLines words) (Listing.binaryLines words) := by
  obtain ⟨between, writes, alsoWrites⟩ := delivers
  exact map.updatesTwice_of_writes writes alsoWrites

/-- When the store refuses a listing, at most the hexadecimal words have been
written: nothing if they are what was refused, and otherwise these alone. -/
theorem Refused.updates {words : List Encoded} {name : Text} {fault : AccessFault} {after : σ}
    (refused : options.Refused files words name fault after) :
    after = files ∨ ∀ map : FileMap σ,
      map.Updates files after options.outHex (Listing.hexadecimalLines words) := by
  cases refused with
  | hexadecimal => exact Or.inl rfl
  | binary _ _ writes _ => exact Or.inr fun map => map.updates_of_writes writes

namespace Courses

variable {outcome : Bool → Bool → Outcome σ} (courses : options.Courses files outcome)
  (quiet verbose : Bool)
include courses

/-- The status is 2 in the course of an unreadable source. Every other course
has another status, and where the source is unreadable no other course applies. -/
theorem unreadable_iff : (outcome quiet verbose).status = .ok 2 ↔
    ∃ fault, Unreadable files options.source fault := by
  constructor
  · intro status
    cases courses with
    | unreadable fault unreadable => exact ⟨fault, unreadable⟩
    | nameless | escaped => simp at status
    | finished _ _ _ _ _ _ _ _ ends => cases ends <;> simp at status
  · rintro ⟨fault, unreadable⟩
    rw [courses.unique (.unreadable fault unreadable)]

/-- The digit limit leaves no status in the course of an assembly that it ends.
No other course comes to that abort, and an assembly that the limit ends takes
this course. -/
theorem escaping_iff (limit : DigitLimit) :
    (outcome quiet verbose).status = .error (.limit limit) ↔
      ∃ text, options.Assembles files text (.error limit) := by
  constructor
  · intro status
    cases courses with
    | escaped text _ assembles =>
      simp only [Except.error.injEq, Abort.limit.injEq] at status
      exact ⟨text, status ▸ assembles⟩
    | nameless | unreadable => simp at status
    | finished _ _ _ _ _ _ _ _ ends => cases ends <;> simp at status
  · rintro ⟨text, assembles⟩
    rw [courses.unique (.escaped text limit assembles)]

/-- A course without a status met the digit limit or a name that is no path. The
name is that of the source or, with words to write, that of an output. -/
theorem limit_or_not_namesPaths (abort : Abort)
    (aborted : (outcome quiet verbose).status = .error abort) :
    (∃ limit, abort = .limit limit) ∨ abort = .nullCharacter ∧ ¬options.NamesPaths := by
  cases courses with
  | nameless null =>
    obtain rfl := Except.error.inj aborted
    exact Or.inr ⟨rfl, fun names => names.source null⟩
  | unreadable => simp at aborted
  | escaped _ limit _ =>
    obtain rfl := Except.error.inj aborted
    exact Or.inl ⟨limit, rfl⟩
  | finished _ _ _ _ _ _ _ _ ends =>
    cases ends with
    | blocked _ _ blocked =>
      obtain rfl := Except.error.inj aborted
      exact Or.inr ⟨rfl, blocked.not_namesPaths⟩
    | reported | refused | delivered => simp at aborted

/-- The course of a source that is assembled and leads to an end has the status,
the files and the remark of that end. The listing never fails, so the course is
one of a source that is finished, and there is only one course. -/
theorem eq_of_ends {text : Text} {assembly : Assembly} {status : Except Abort Nat}
    {remark : Bool → Text} {after : σ} (assembles : options.Assembles files text (.ok assembly))
    (ends : options.Ends files assembly status remark after) :
    (outcome quiet verbose).status = status ∧ (outcome quiet verbose).files = after ∧
      (outcome quiet verbose).stderr = tracing verbose assembly.words ++ remark verbose := by
  obtain ⟨listing, listed⟩ := Program.exists_listing assembles.assembled
  have finished := Courses.finished text assembly listing status remark after assembles listed ends
  rw [courses.unique finished]
  exact ⟨rfl, rfl, rfl⟩

/-- A status other than 2 is that of the end to which an assembled source leads.
The courses that end before the assembly have the status 2 or none. -/
theorem status_eq_ok_iff {status : Nat} (readable : status ≠ 2) :
    (outcome quiet verbose).status = .ok status ↔
      ∃ text assembly remark after, options.Assembles files text (.ok assembly) ∧
        options.Ends files assembly (.ok status) remark after := by
  constructor
  · intro same
    cases courses with
    | nameless | escaped => simp at same
    | unreadable => exact absurd (Except.ok.inj same).symm readable
    | finished text assembly _ _ remark after assembles _ ends =>
      obtain rfl := same
      exact ⟨text, assembly, remark, after, assembles, ends⟩
  · rintro ⟨text, assembly, remark, after, assembles, ends⟩
    exact (courses.eq_of_ends quiet verbose assembles ends).1

/-- The status is 1 in the course of a source with diagnostics. Among the ends
of an assembled source only that one has the status, and where there are
diagnostics it applies. -/
theorem reporting_iff : (outcome quiet verbose).status = .ok 1 ↔
    ∃ text assembly, options.Assembles files text (.ok assembly) ∧
      assembly.diagnostics ≠ [] := by
  rw [courses.status_eq_ok_iff quiet verbose (by decide)]
  constructor
  · rintro ⟨text, assembly, _, _, assembles, ends⟩
    cases ends with
    | reported flawed => exact ⟨text, assembly, assembles, flawed⟩
  · rintro ⟨text, assembly, assembles, flawed⟩
    exact ⟨text, assembly, _, _, assembles, .reported flawed⟩

/-- The status is 3 in the course of words that the store refuses. An assembly
at this end has no diagnostics, so it consists of its words. -/
theorem refusing_iff : (outcome quiet verbose).status = .ok 3 ↔
    ∃ text words, options.Assembles files text (.ok ⟨words, []⟩) ∧
      ∃ name fault after, options.Refused files words name fault after := by
  rw [courses.status_eq_ok_iff quiet verbose (by decide)]
  constructor
  · rintro ⟨text, ⟨words, diagnostics⟩, _, _, assembles, ends⟩
    cases ends with
    | refused clean name fault _ refused =>
      subst clean
      exact ⟨text, words, assembles, name, fault, _, refused⟩
  · rintro ⟨text, words, assembles, name, fault, after, refused⟩
    exact ⟨text, _, _, _, assembles, .refused rfl name fault after refused⟩

/-- The status is 0 in the course of words that are delivered. An assembly at
this end has no diagnostics, so it consists of its words. -/
theorem delivering_iff : (outcome quiet verbose).status = .ok 0 ↔
    ∃ text words, options.Assembles files text (.ok ⟨words, []⟩) ∧
      ∃ after, options.Delivers files words after := by
  rw [courses.status_eq_ok_iff quiet verbose (by decide)]
  constructor
  · rintro ⟨text, ⟨words, diagnostics⟩, _, _, assembles, ends⟩
    cases ends with
    | delivered clean _ delivers =>
      subst clean
      exact ⟨text, words, assembles, _, delivers⟩
  · rintro ⟨text, words, assembles, after, delivers⟩
    exact ⟨text, _, _, _, assembles, .delivered rfl after delivers⟩

/-- Only a course with words to write changes files. Every course before that
ends with the store as it was, and so does one that reports diagnostics. -/
theorem files_eq (unrefused : (outcome quiet verbose).status ≠ .ok 3)
    (undelivered : (outcome quiet verbose).status ≠ .ok 0)
    (unblocked : (outcome quiet verbose).status ≠ .error .nullCharacter) :
    (outcome quiet verbose).files = files := by
  cases courses with
  | nameless | unreadable | escaped => rfl
  | finished _ _ _ _ _ _ _ _ ends =>
    cases ends with
    | reported => rfl
    | refused => exact absurd rfl unrefused
    | blocked => exact absurd rfl unblocked
    | delivered => exact absurd rfl undelivered

end Courses

/-- Every run keeps to the contract, for all options and every store of files,
whatever it refuses: the status tells what happened, no file changes before the
whole source is assembled without diagnostics, and afterwards only the files
that were asked for change.

Proof: the run is one of its courses, and no two courses apply. Each status is
that of one course, read off in one direction and chosen by its condition in the
other; what is printed and written is read off the end of the course. -/
theorem run_follows (options : Options) (files : σ) :
    (options.run files).Follows options files := by
  have courses := options.courses_run files
  refine {
    unreadable := courses.unreadable_iff options.quiet options.verbose
    escaping := courses.escaping_iff options.quiet options.verbose
    aborting := courses.limit_or_not_namesPaths options.quiet options.verbose
    reporting := courses.reporting_iff options.quiet options.verbose
    refusing := courses.refusing_iff options.quiet options.verbose
    delivering := courses.delivering_iff options.quiet options.verbose
    untouched := courses.files_eq options.quiet options.verbose
    explains := ?_, reports := ?_, refuses := ?_, delivers := ?_ }
  · intro fault unreadable
    rw [run_of_unreadable unreadable]
  · intro text assembly assembles flawed
    obtain ⟨_, _, stderr⟩ :=
      courses.eq_of_ends options.quiet options.verbose assembles (.reported flawed)
    exact ⟨stderr,
      Program.pairwise_diagnostics (Program.numbered_ofText text) assembles.assembled⟩
  · intro text words name fault after assembles refused
    obtain ⟨_, written, stderr⟩ := courses.eq_of_ends options.quiet options.verbose assembles
      (.refused rfl name fault after refused)
    exact ⟨written, stderr, refused.updates⟩
  · intro text words after assembles delivers
    obtain ⟨_, written, stderr⟩ := courses.eq_of_ends options.quiet options.verbose assembles
      (.delivered rfl after delivers)
    exact ⟨written, stderr, delivers.updatesTwice⟩

/-- A file system with one source, on a medium that is full after a single
write. -/
def nearlyFull : Guarded FileSystem where
  files := ⟨[(["a".toList], .file (Text.Utf8.encode "nop\n".toList))]⟩
  writes := 0
  refusesRead _ := none
  refusesWrite count _ := if count = 0 then none else some ⟨28, "No space left on device".toList⟩

/-- Both listings are asked for in one file, under two paths, and there is room
for one. The run is refused at the second path, and the file keeps the
hexadecimal words. -/
theorem run_follows_nearlyFull :
    ((Options.mk "a".toList "o".toList "./o".toList true false).run nearlyFull).status = .ok 3 ∧
      ((Options.mk "a".toList "o".toList "./o".toList true false).run nearlyFull).stderr =
        renderRefusal "./o".toList ⟨28, "No space left on device".toList⟩ ∧
      FileSystem.map.guarded.content
        ((Options.mk "a".toList "o".toList "./o".toList true false).run nearlyFull).files
        ⟨"./o".toList, by decide⟩ = some (Text.Utf8.encode "0xc8000000\n".toList) := by
  obtain ⟨words, assembles, lines⟩ : ∃ words,
      (Options.mk "a".toList "o".toList "./o".toList true false).Assembles nearlyFull
        "nop\n".toList (.ok ⟨words, []⟩) ∧
      Listing.hexadecimalLines words = ["0xc8000000".toList] :=
    ⟨_, ⟨.intro ⟨"a".toList, by decide⟩ _ "nop\n".toList rfl rfl rfl, rfl⟩, rfl⟩
  obtain ⟨between, writes, refuses⟩ : ∃ between,
      FileStore.Writes nearlyFull "o".toList (Listing.hexadecimalLines words) between ∧
      FileStore.Refuses between "./o".toList (Listing.binaryLines words)
        ⟨28, "No space left on device".toList⟩ :=
    ⟨_, .granted ⟨"o".toList, by decide⟩ _ rfl (by decide) rfl,
      .intro ⟨"./o".toList, by decide⟩ _ rfl (by decide) rfl⟩
  have follows := run_follows (Options.mk "a".toList "o".toList "./o".toList true false) nearlyFull
  have refused : (Options.mk "a".toList "o".toList "./o".toList true false).Refused nearlyFull
      words "./o".toList ⟨28, "No space left on device".toList⟩ between :=
    .binary _ between writes refuses
  obtain ⟨written, stderr, _⟩ := follows.refuses _ words _ _ between assembles refused
  have shared : FileSystem.map.guarded.Reaches nearlyFull "o".toList ⟨"./o".toList, by decide⟩ :=
    ⟨⟨"o".toList, by decide⟩, rfl, by decide, Or.inr ⟨["o".toList], rfl, rfl⟩⟩
  refine ⟨follows.refusing.mpr ⟨_, words, assembles, _, _, between, refused⟩, stderr, ?_⟩
  rw [written, (FileSystem.map.guarded.updates_of_writes writes).written _ shared, lines]
  rfl

end Options

end LineAssembler.CommandLine
