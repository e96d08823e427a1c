import LineAssembler.Proofs.RunCourses

/-!
# The flags for the listing and the trace

Two flags tell a run what to print: one leaves the listing out, the other adds a trace.
Runs that differ in these flags only come to the same status and leave the same files,
whatever the store of files refuses. Standard output depends on the flag for the listing
alone, and standard error on the flag for the trace alone: a trace puts a line for each
encoded word in front, and a line for the whole before the last line of a run that succeeds.

The courses of a run are functions of the two flags, and in each course the flags stand
only where something is printed. Names that are no paths are not left out here.
-/

namespace LineAssembler.CommandLine.Options

variable {σ : Type} [FileStore σ]

/-- The words that a run encodes: those of its source, and none if that is not
read. -/
inductive Encodes (options : Options) (files : σ) : List Encoded → Prop where
  | unread (unread : ∀ text result, ¬options.Assembles files text result) :
    Encodes options files []
  | assembled (text : Text) (assembly : Assembly)
    (assembles : options.Assembles files text (.ok assembly)) :
    Encodes options files assembly.words

/-- What the two flags change of the outcomes of a run, and what they do not. -/
structure FlagsIndependent (options : Options) (files : σ)
    (outcome : Bool → Bool → Outcome σ) : Prop where
  /-- Leaving the listing out changes neither the status, nor standard error,
  nor files. -/
  quietStatus (verbose : Bool) : (outcome true verbose).status = (outcome false verbose).status
  quietStderr (verbose : Bool) : (outcome true verbose).stderr = (outcome false verbose).stderr
  quietFiles (verbose : Bool) : (outcome true verbose).files = (outcome false verbose).files
  /-- Without the listing, standard output is empty. -/
  silent (verbose : Bool) : (outcome true verbose).stdout = []
  /-- With it, standard output is the listing of a source that is assembled,
  with or without diagnostics, and otherwise empty. -/
  listed (verbose : Bool) (text : Text) (assembly : Assembly) :
    options.Assembles files text (.ok assembly) →
      ∃ listing, Listing.lines (Program.ofText text) assembly.words assembly.diagnostics =
          .ok listing ∧
        (outcome false verbose).stdout = Text.ofLines listing
  unlisted (verbose : Bool) : (∀ text assembly, ¬options.Assembles files text (.ok assembly)) →
    (outcome false verbose).stdout = []
  /-- Adding the trace changes neither the status, nor standard output, nor
  files. -/
  verboseStatus (quiet : Bool) : (outcome quiet true).status = (outcome quiet false).status
  verboseStdout (quiet : Bool) : (outcome quiet true).stdout = (outcome quiet false).stdout
  verboseFiles (quiet : Bool) : (outcome quiet true).files = (outcome quiet false).files
  /-- In a run that comes to a status, the trace puts a line for each encoded
  word in front of standard error and, if the status is 0, a line for the whole
  before the last line. -/
  traced (quiet : Bool) (status : Nat) : (outcome quiet false).status = .ok status →
    ∃ words, options.Encodes files words ∧
      (status ≠ 0 → (outcome quiet true).stderr =
        Text.ofLines (words.map Encoded.traceLine) ++ (outcome quiet false).stderr) ∧
      (status = 0 → (outcome quiet false).stderr = okLine words.length ∧
        (outcome quiet true).stderr =
          Text.ofLines (words.map Encoded.traceLine ++
            [summaryLine words.length options.source]) ++ okLine words.length)

namespace Courses

variable {options : Options} {files : σ} {outcome : Bool → Bool → Outcome σ}

/-- In every course the listing of an assembled source is printed unless the run
is quiet. The source settles the course up to its end, and no end prints on
standard output. -/
theorem stdout_eq (courses : options.Courses files outcome) (verbose : Bool) (text : Text)
    (assembly : Assembly) (assembles : options.Assembles files text (.ok assembly)) :
    ∃ listing, Listing.lines (Program.ofText text) assembly.words assembly.diagnostics =
        .ok listing ∧
      (outcome false verbose).stdout = Text.ofLines listing := by
  obtain ⟨listing, _, _, _, listed, _, rfl⟩ := courses.exists_ends assembles
  exact ⟨listing, listed, rfl⟩

/-- A course in which no source is assembled prints no listing. The courses
before an assembly print nothing on standard output, and the others have a
source that is assembled. -/
theorem stdout_eq_nil (courses : options.Courses files outcome) (verbose : Bool)
    (unassembled : ∀ text assembly, ¬options.Assembles files text (.ok assembly)) :
    (outcome false verbose).stdout = [] := by
  cases courses with
  | nameless | unreadable | escaped => rfl
  | finished text assembly _ _ _ _ assembles _ _ =>
    exact absurd assembles (unassembled text assembly)

/-- In every course that comes to a status, a trace shows the encoded words.
What follows it is the same with and without the trace, unless the words are
delivered: then the line for the whole stands between the words and the last
line. -/
theorem stderr_eq (courses : options.Courses files outcome) (quiet : Bool) (status : Nat)
    (returned : (outcome quiet false).status = .ok status) :
    ∃ words, options.Encodes files words ∧
      (status ≠ 0 → (outcome quiet true).stderr =
        Text.ofLines (words.map Encoded.traceLine) ++ (outcome quiet false).stderr) ∧
      (status = 0 → (outcome quiet false).stderr = okLine words.length ∧
        (outcome quiet true).stderr =
          Text.ofLines (words.map Encoded.traceLine ++
            [summaryLine words.length options.source]) ++ okLine words.length) := by
  cases courses with
  | nameless | escaped => simp at returned
  | unreadable _ unreadable =>
    obtain rfl := Except.ok.inj returned
    have unread : ∀ text result, ¬options.Assembles files text result :=
      fun text _ assembles => unreadable.not_reads text assembles.reads
    exact ⟨[], .unread unread, fun _ => rfl, by simp⟩
  | finished text assembly _ _ _ _ assembles _ ends =>
    refine ⟨assembly.words, .assembled text assembly assembles, ?_⟩
    cases ends with
    | reported | refused =>
      obtain rfl := Except.ok.inj returned
      exact ⟨fun _ => rfl, by simp⟩
    | blocked => simp at returned
    | delivered =>
      obtain rfl := Except.ok.inj returned
      refine ⟨by simp, fun _ => ⟨rfl, ?_⟩⟩
      rw [Text.ofLines_append, List.append_assoc]
      rfl

/-- In every course the flags change only what is printed. Where the flags may
not matter, the two sides are the same in each course as it is written down. -/
theorem flagsIndependent (courses : options.Courses files outcome) :
    options.FlagsIndependent files outcome where
  quietStatus _ := by cases courses <;> rfl
  quietStderr _ := by cases courses <;> rfl
  quietFiles _ := by cases courses <;> rfl
  silent _ := by cases courses <;> rfl
  listed := courses.stdout_eq
  unlisted := courses.stdout_eq_nil
  verboseStatus _ := by cases courses <;> rfl
  verboseStdout _ := by cases courses <;> rfl
  verboseFiles _ := by cases courses <;> rfl
  traced := courses.stderr_eq

end Courses

/-- The flags for the listing and the trace do not interfere with the result of
a run, for every command line and every store of files, whatever it refuses.
They change what is printed, each its own stream, and nothing else. The four
runs are one course, and the statement holds in every course. -/
theorem run_flagsIndependent (options : Options) (files : σ) :
    options.FlagsIndependent files fun quiet verbose =>
      (options.withFlags quiet verbose).run files := by
  apply Courses.flagsIndependent
  exact options.courses_run files

/-- A file system with one source, of one instruction and a blank line. -/
def soleSource : FileSystem := ⟨[(["a".toList], .file (Text.Utf8.encode "nop\n\n".toList))]⟩

/-- A run over a file with one instruction and a blank line succeeds. Without a
trace it prints its last line only; a trace adds one line for the word and one
for the whole. -/
theorem run_flagsIndependent_nop :
    ∃ words,
      (Options.mk "a".toList [] [] true false).Encodes soleSource words ∧
      ((Options.mk "a".toList [] [] true false).run soleSource).stderr = okLine words.length ∧
      ((Options.mk "a".toList [] [] true true).run soleSource).stderr =
        Text.ofLines (words.map Encoded.traceLine ++ [summaryLine words.length "a".toList]) ++
          okLine words.length := by
  obtain ⟨words, assembles⟩ : ∃ words, (Options.mk "a".toList [] [] true false).Assembles
      soleSource "nop\n\n".toList (.ok ⟨words, []⟩) :=
    ⟨_, .intro ⟨"a".toList, by decide⟩ _ "nop\n\n".toList rfl rfl rfl, rfl⟩
  obtain ⟨listing, listed⟩ := Program.exists_listing assembles.assembled
  have delivers : (Options.mk "a".toList [] [] true false).Delivers soleSource words soleSource :=
    ⟨soleSource, .unasked rfl, .unasked rfl⟩
  have run := (Ends.delivered rfl soleSource delivers).run_eq assembles listed true false
  obtain ⟨words, encodes, _, success⟩ := (run_flagsIndependent
    (Options.mk "a".toList [] [] true false) soleSource).traced true 0 (congrArg Outcome.status run)
  exact ⟨words, encodes, success rfl⟩

end LineAssembler.CommandLine.Options
