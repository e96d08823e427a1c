import LineAssembler.CommandLine.Run
import LineAssembler.Proofs.EncodingTrace
import LineAssembler.Proofs.FaithfulListing
import LineAssembler.Proofs.FileMaps

/-!
# Courses of a run

What can become of a run, whatever store of files it works on. Its source has no path or
cannot be read; the digit limit ends the assembly; or the source is assembled, and the run
reports diagnostics, stops at an output that is refused, or delivers its words. The store
may refuse any request, and each course is described by the requests and their answers.

All four runs with other flags for what is printed are followed at once: a course is a
function of the two flags. One of the courses is taken, and every course that applies is
the run; so a course determines the run and the run its course.
-/

namespace LineAssembler

/-- The text of a path names the path, since it holds no null character. -/
theorem Path.ofText?_text (path : Path) : Path.ofText? path.text = some path := by
  rw [Path.ofText?, dif_pos path.null_not_mem]

/-- A text that holds a null character names no path. -/
theorem Path.ofText?_of_null (text : Text) (null : '\x00' ∈ text) :
    Path.ofText? text = none := by
  rw [Path.ofText?, dif_neg (not_not_intro null)]

/-- The line of a trace that shows a word. -/
def Encoded.traceLine (encoded : Encoded) : Text :=
  "asm374.encoding: line ".toList ++ Event.lineNumber encoded.line ++ ": \"".toList ++
    Text.trim encoded.text ++ "\" -> ".toList ++ Word.markedHexadecimal encoded.word

/-- The event of a word is printed as the line of a trace that shows it: the
name of the channel, and behind it the message. -/
theorem Encoded.render_event (encoded : Encoded) :
    (Event.encoded encoded.line encoded.text encoded.word).render = encoded.traceLine := by
  have joined : "asm374.encoding: line ".toList =
      "asm374.encoding".toList ++ ": ".toList ++ "line ".toList := by decide
  unfold Event.render Event.channel Event.message Encoded.traceLine
  rw [joined]
  simp only [List.append_assoc]

namespace CommandLine

/-- The line of a trace that ends a run. -/
def summaryLine (count : Nat) (source : Text) : Text :=
  "asm374.assembler: ".toList ++ Numeral.ofNat count ++
    " instrucciones ensambladas desde ".toList ++ source

/-- The last line of a run that succeeds, with its line feed. -/
def okLine (count : Nat) : Text :=
  "OK: ".toList ++ Numeral.ofNat count ++ " instrucciones\n".toList

/-- What a trace of words prints, if there is one. -/
def tracing (verbose : Bool) (words : List Encoded) : Text :=
  if verbose then Text.ofLines (words.map Encoded.traceLine) else []

/-- What is printed once words are delivered: the last line, and before it the
line that ends the trace, if there is one. -/
def announcement (verbose : Bool) (count : Nat) (source : Text) : Text :=
  (if verbose then Text.ofLines [summaryLine count source] else []) ++ okLine count

/-- The event that ends a run is printed as its line of a trace: it is at the
level that is shown, and it comes from its own channel. -/
theorem renderEvents_assembled (count : Nat) (source : Text) :
    renderEvents [.assembled count source] = Text.ofLines [summaryLine count source] := by
  have joined : "asm374.assembler: ".toList = "asm374.assembler".toList ++ ": ".toList := by decide
  have shown : (Event.assembled count source).render = summaryLine count source := by
    unfold Event.render Event.channel Event.message summaryLine
    rw [joined]
    simp only [List.append_assoc]
  rw [← shown]
  rfl

/-- Of the events of words, one line is printed for each word: its fields are
recorded at a level that is not shown. By induction on the words, each of which
brings one event of either level. -/
theorem renderEvents_words (words : List Encoded) :
    renderEvents (words.flatMap Encoded.events) = Text.ofLines (words.map Encoded.traceLine) := by
  have shown : (words.flatMap Encoded.events).filter (·.level = .info) =
      words.map fun encoded => .encoded encoded.line encoded.text encoded.word := by
    induction words with
    | nil => rfl
    | cons encoded rest inductionHypothesis =>
      rw [List.flatMap_cons, List.filter_append, inductionHypothesis]
      rfl
  rw [renderEvents, shown, List.map_map]
  exact congrArg Text.ofLines (List.map_congr_left fun encoded _ => encoded.render_event)

variable {σ : Type} [FileStore σ]

/-! ## Carrying out a plan on a store -/

/-- Lines that are written under the first name are followed by the rest of the
outputs. A name that asks for nothing is passed over, so the same holds if
nothing is written under it. -/
theorem writeAll_of_writes {world : World σ} {name : Text} {lines : List Text} {after : σ}
    (rest : List (Text × Text)) (writes : FileStore.Writes world.files name lines after) :
    writeAll (.ofStore σ) (((name, Text.ofLines lines) :: rest).filter (!·.1.isEmpty)) world =
      writeAll (.ofStore σ) (rest.filter (!·.1.isEmpty)) { world with files := after } := by
  cases writes with
  | unasked empty =>
    subst empty
    rfl
  | granted path _ named nonempty written =>
    subst named
    have kept : (!path.text.isEmpty) = true := by simpa using nonempty
    rw [List.filter_cons, if_pos kept, writeAll, path.ofText?_text]
    simp only [Surroundings.ofStore, bind, StateT.bind, written]

/-- Lines that are refused under the first name end the writing, and nothing has
changed. The outputs behind it are not looked at. -/
theorem writeAll_of_refuses {world : World σ} {name : Text} {lines : List Text}
    {fault : AccessFault} (rest : List (Text × Text))
    (refuses : FileStore.Refuses world.files name lines fault) :
    writeAll (.ofStore σ) (((name, Text.ofLines lines) :: rest).filter (!·.1.isEmpty)) world =
      (some (.access name fault), world) := by
  obtain ⟨path, _, named, nonempty, refused⟩ := refuses
  subst named
  have kept : (!path.text.isEmpty) = true := by simpa using nonempty
  rw [List.filter_cons, if_pos kept, writeAll, path.ofText?_text]
  simp only [Surroundings.ofStore, bind, StateT.bind, refused]
  rfl

/-- A first name that is no path ends the writing before the store is asked. -/
theorem writeAll_of_null (world : World σ) (name : Text) (lines : List Text)
    (rest : List (Text × Text)) (null : '\x00' ∈ name) :
    writeAll (.ofStore σ) (((name, Text.ofLines lines) :: rest).filter (!·.1.isEmpty)) world =
      (some .nullCharacter, world) := by
  have kept : (!name.isEmpty) = true := by simpa using List.ne_nil_of_mem null
  rw [List.filter_cons, if_pos kept, writeAll, Path.ofText?_of_null name null]
  rfl

/-- A plan with diagnostics is carried out by printing. It comes to its status
before any output is looked at. -/
theorem Plan.execute_of_errors (plan : Plan) (world : World σ) (flawed : plan.hasErrors = true) :
    plan.execute (.ofStore σ) world =
      (.ok 1, ⟨world.files, world.stdout ++ plan.listing, world.stderr ++ plan.report⟩) := by
  simp only [Plan.execute, flawed]
  rfl

/-- A plan without diagnostics is carried out by printing, writing the files and
concluding from what the writing came to. -/
theorem Plan.execute_of_clean (plan : Plan) (world : World σ) (clean : plan.hasErrors = false) :
    plan.execute (.ofStore σ) world =
      let written := writeAll (.ofStore σ) plan.outputs
        ⟨world.files, world.stdout ++ plan.listing, world.stderr ++ plan.report⟩
      plan.conclude (.ofStore σ) written.1 written.2 := by
  simp only [Plan.execute, clean]
  rfl

/-! ## What the store answers -/

/-- A source is read as a text: the store grants its bytes, they are decoded,
and the line endings of the decoded text are normalized. -/
inductive Reads (files : σ) (source : Text) : Text → Prop where
  | intro (path : Path) (bytes : List UInt8) (text : Text) (named : path.text = source)
    (read : FileStore.read files path = .ok bytes)
    (decoded : Text.Utf8.decode bytes = .ok text) :
    Reads files source (Text.normalizeNewlines text)

/-- A source cannot be read: the store refuses it, or its bytes are no text. -/
inductive Unreadable (files : σ) (source : Text) : SourceFault → Prop where
  | refused (path : Path) (fault : AccessFault) (named : path.text = source)
    (refused : FileStore.read files path = .error fault) :
    Unreadable files source (.access fault)
  | undecodable (path : Path) (bytes : List UInt8) (fault : Text.Utf8.Fault)
    (named : path.text = source) (read : FileStore.read files path = .ok bytes)
    (undecodable : Text.Utf8.decode bytes = .error fault) :
    Unreadable files source (.encoding fault)

/-- A source that cannot be read is not read: a name has only one path, and a
path only one answer. -/
theorem Unreadable.not_reads {files : σ} {source : Text} {fault : SourceFault}
    (unreadable : Unreadable files source fault) (text : Text) : ¬Reads files source text := by
  rintro ⟨path, bytes, decoded, named, read, decodes⟩
  cases unreadable with
  | refused other _ alsoNamed refused =>
    obtain rfl := Path.ext (named.trans alsoNamed.symm)
    exact absurd (read.symm.trans refused) (by simp)
  | undecodable other otherBytes _ alsoNamed alsoRead undecodable =>
    obtain rfl := Path.ext (named.trans alsoNamed.symm)
    obtain rfl := Except.ok.inj (read.symm.trans alsoRead)
    exact absurd (decodes.symm.trans undecodable) (by simp)

/-- A source with a path is read or cannot be read. The answer of the store is
looked at first and then, if bytes were granted, what they are decoded to. -/
theorem reads_or_unreadable (files : σ) (source : Text) (nameable : '\x00' ∉ source) :
    (∃ text, Reads files source text) ∨ ∃ fault, Unreadable files source fault := by
  cases read : FileStore.read files ⟨source, nameable⟩ with
  | error fault => exact Or.inr ⟨_, .refused _ fault rfl read⟩
  | ok bytes =>
    cases decoded : Text.Utf8.decode bytes with
    | error fault => exact Or.inr ⟨_, .undecodable _ bytes fault rfl read decoded⟩
    | ok text => exact Or.inl ⟨_, .intro _ bytes text rfl read decoded⟩

namespace Options

/-- The same command line with other flags for what is printed. -/
def withFlags (options : Options) (quiet verbose : Bool) : Options :=
  { options with quiet, verbose }

/-- The source that options name is read as a text, and assembling the text
comes to a result. -/
structure Assembles (options : Options) (files : σ) (text : Text)
    (result : Except DigitLimit Assembly) : Prop where
  reads : Reads files options.source text
  assembled : ((Program.ofText text).assemble (some options.source)).result = result

/-- Both listings of words are written in turn, each under the name that is
given for it. -/
def Delivers (options : Options) (files : σ) (words : List Encoded) (after : σ) : Prop :=
  ∃ between, FileStore.Writes files options.outHex (Listing.hexadecimalLines words) between ∧
    FileStore.Writes between options.outBin (Listing.binaryLines words) after

/-- Both listings of words are to be written in turn and the store refuses one:
its name, the fault, and the store as it is then. -/
inductive Refused (options : Options) (files : σ) (words : List Encoded) :
    Text → AccessFault → σ → Prop where
  | hexadecimal (fault : AccessFault)
    (refuses : FileStore.Refuses files options.outHex (Listing.hexadecimalLines words) fault) :
    Refused options files words options.outHex fault files
  | binary (fault : AccessFault) (between : σ)
    (writes : FileStore.Writes files options.outHex (Listing.hexadecimalLines words) between)
    (refuses : FileStore.Refuses between options.outBin (Listing.binaryLines words) fault) :
    Refused options files words options.outBin fault between

/-- Both listings of words are to be written in turn and one has a name that is
no path: the store as it is then. -/
inductive Blocked (options : Options) (files : σ) (words : List Encoded) : σ → Prop where
  | hexadecimal (null : '\x00' ∈ options.outHex) : Blocked options files words files
  | binary (between : σ)
    (writes : FileStore.Writes files options.outHex (Listing.hexadecimalLines words) between)
    (null : '\x00' ∈ options.outBin) : Blocked options files words between

/-- Words are delivered, refused or blocked. The second name is looked at only
after the lines under the first are written. -/
theorem delivers_or_refused_or_blocked (options : Options) (files : σ) (words : List Encoded) :
    (∃ after, options.Delivers files words after) ∨
      (∃ name fault after, options.Refused files words name fault after) ∨
      ∃ after, options.Blocked files words after := by
  by_cases hexNull : '\x00' ∈ options.outHex
  · exact Or.inr (Or.inr ⟨files, .hexadecimal hexNull⟩)
  rcases FileStore.writes_or_refuses files options.outHex (Listing.hexadecimalLines words)
    hexNull with ⟨between, writes⟩ | ⟨fault, refuses⟩
  · by_cases binNull : '\x00' ∈ options.outBin
    · exact Or.inr (Or.inr ⟨between, .binary between writes binNull⟩)
    rcases FileStore.writes_or_refuses between options.outBin (Listing.binaryLines words)
      binNull with ⟨after, alsoWrites⟩ | ⟨fault, refuses⟩
    · exact Or.inl ⟨after, between, writes, alsoWrites⟩
    · exact Or.inr (Or.inl ⟨_, fault, between, .binary fault between writes refuses⟩)
  · exact Or.inr (Or.inl ⟨_, fault, files, .hexadecimal fault refuses⟩)

/-! ## Courses -/

/-- How a run ends whose source is assembled: the status, the remark on standard
error, which may depend on the flag for the trace, and the files. -/
inductive Ends (options : Options) (files : σ) (assembly : Assembly) :
    Except Abort Nat → (Bool → Text) → σ → Prop where
  | reported (flawed : assembly.diagnostics ≠ []) :
    Ends options files assembly (.ok 1)
      (fun _ => Text.ofLines (assembly.diagnostics.map Diagnostic.render)) files
  | refused (clean : assembly.diagnostics = []) (name : Text) (fault : AccessFault) (after : σ)
    (refused : options.Refused files assembly.words name fault after) :
    Ends options files assembly (.ok 3) (fun _ => renderRefusal name fault) after
  | blocked (clean : assembly.diagnostics = []) (after : σ)
    (blocked : options.Blocked files assembly.words after) :
    Ends options files assembly (.error .nullCharacter) (fun _ => []) after
  | delivered (clean : assembly.diagnostics = []) (after : σ)
    (delivers : options.Delivers files assembly.words after) :
    Ends options files assembly (.ok 0)
      (fun verbose => announcement verbose assembly.words.length options.source) after

/-- The courses of a run as functions of the two flags: its source has no path;
the source cannot be read; the digit limit ends the assembly; or the source is
assembled, and the run prints the listing and ends in one of the ways of an
assembled source. -/
inductive Courses (options : Options) (files : σ) : (Bool → Bool → Outcome σ) → Prop where
  | nameless (null : '\x00' ∈ options.source) :
    Courses options files fun _ _ => ⟨.error .nullCharacter, [], [], files⟩
  | unreadable (fault : SourceFault) (unreadable : Unreadable files options.source fault) :
    Courses options files fun _ _ => ⟨.ok 2, [], fault.render options.source, files⟩
  | escaped (text : Text) (limit : DigitLimit)
    (assembles : options.Assembles files text (.error limit)) :
    Courses options files fun _ verbose =>
      ⟨.error (.limit limit), [], (options.withFlags false verbose).trace text, files⟩
  | finished (text : Text) (assembly : Assembly) (listing : List Text)
    (status : Except Abort Nat) (remark : Bool → Text) (after : σ)
    (assembles : options.Assembles files text (.ok assembly))
    (listed : Listing.lines (Program.ofText text) assembly.words assembly.diagnostics =
      .ok listing)
    (ends : options.Ends files assembly status remark after) :
    Courses options files fun quiet verbose =>
      ⟨status, if quiet then [] else Text.ofLines listing,
        tracing verbose assembly.words ++ remark verbose, after⟩

/-! ## Every course that applies is the run -/

/-- A run whose source cannot be read prints why. Whether the store refused it
or its bytes are no text makes a difference only to what is printed. -/
theorem run_of_unreadable {options : Options} {files : σ} {fault : SourceFault}
    (unreadable : Unreadable files options.source fault) :
    options.run files = ⟨.ok 2, [], fault.render options.source, files⟩ := by
  cases unreadable with
  | refused path fault named refused =>
    rw [run, perform, ← named, path.ofText?_text]
    simp only [Outcome.after, Surroundings.ofStore, bind, StateT.bind, refused]
    rfl
  | undecodable path bytes fault named read undecodable =>
    rw [run, perform, ← named, path.ofText?_text]
    simp only [Outcome.after, Surroundings.ofStore, bind, StateT.bind, read, readSource,
      undecodable]
    rfl

/-- A run whose source is read prints its trace and carries out its plan, if it
has one. The trace is printed before it is known whether there is a plan. -/
theorem run_of_reads {options : Options} {files : σ} {text : Text}
    (reads : Reads files options.source text) :
    options.run files =
      match plan options text with
      | .error abort => ⟨.error abort, [], options.trace text, files⟩
      | .ok plan => .after (plan.execute (.ofStore σ)) ⟨files, [], options.trace text⟩ := by
  obtain ⟨path, bytes, decoded, named, read, decodes⟩ := reads
  rw [run, perform, ← named, path.ofText?_text]
  simp only [Outcome.after, Surroundings.ofStore, bind, StateT.bind, read, readSource, decodes]
  cases planned : plan options (Text.normalizeNewlines decoded) with
  | error abort =>
    simp only [Except.map, Except.mapError, planned]
    rfl
  | ok plan =>
    simp only [Except.map, Except.mapError, planned]
    rfl

/-- The plan of a run over an assembled text, as a function of the two flags.
What is written does not depend on them. -/
def planned (options : Options) (assembly : Assembly) (listing : List Text)
    (quiet verbose : Bool) : Plan where
  listing := if quiet then [] else Text.ofLines listing
  report := Text.ofLines (assembly.diagnostics.map Diagnostic.render)
  hasErrors := !assembly.diagnostics.isEmpty
  outputs := outputs options assembly.words
  closing := announcement verbose assembly.words.length options.source

/-- A text that is assembled and listed has that plan. The flags are used for
what is printed only, and the name of the source is the same under all flags. -/
theorem plan_withFlags (options : Options) (text : Text) (assembly : Assembly)
    (listing : List Text) (quiet verbose : Bool)
    (assembled : ((Program.ofText text).assemble (some options.source)).result = .ok assembly)
    (listed : Listing.lines (Program.ofText text) assembly.words assembly.diagnostics =
      .ok listing) :
    plan (options.withFlags quiet verbose) text =
      .ok (options.planned assembly listing quiet verbose) := by
  simp only [plan, withFlags, assembled, listed, renderEvents_assembled, planned, announcement,
    okLine, List.append_assoc]
  rfl

/-- A run over a source that is assembled prints the trace of its words and
carries out that plan. The events of an assembly are those of its words, so the
trace is known from the words. -/
theorem run_of_assembles {options : Options} {files : σ} {text : Text} {assembly : Assembly}
    {listing : List Text} (assembles : options.Assembles files text (.ok assembly))
    (listed : Listing.lines (Program.ofText text) assembly.words assembly.diagnostics =
      .ok listing) (quiet verbose : Bool) :
    (options.withFlags quiet verbose).run files =
      .after ((options.planned assembly listing quiet verbose).execute (.ofStore σ))
        ⟨files, [], tracing verbose assembly.words⟩ := by
  have reads : Reads files (options.withFlags quiet verbose).source text := assembles.reads
  have traced : (options.withFlags quiet verbose).trace text = tracing verbose assembly.words := by
    simp only [trace, withFlags, Program.events_of_assembled assembles.assembled,
      renderEvents_words, tracing]
  rw [run_of_reads reads,
    plan_withFlags options text assembly listing quiet verbose assembles.assembled listed, traced]

/-- Without diagnostics, carrying out that plan prints the listing, writes both
outputs and concludes from what the writing came to. -/
theorem execute_planned_of_clean (options : Options) (assembly : Assembly)
    (listing : List Text) (quiet verbose : Bool) (files : σ) (stderr : Text)
    (clean : assembly.diagnostics = []) :
    (options.planned assembly listing quiet verbose).execute (.ofStore σ) ⟨files, [], stderr⟩ =
      let written := writeAll (.ofStore σ) (outputs options assembly.words)
        ⟨files, if quiet then [] else Text.ofLines listing, stderr⟩
      (options.planned assembly listing quiet verbose).conclude (.ofStore σ) written.1
        written.2 := by
  have flawless : (options.planned assembly listing quiet verbose).hasErrors = false := by
    simp [planned, clean]
  have silent : (options.planned assembly listing quiet verbose).report = [] := by
    rw [planned, clean]
    rfl
  rw [Plan.execute_of_clean _ _ flawless, silent, List.append_nil]
  rfl

/-- Carrying out the plan of an assembled source comes to the end that applies.
Writing follows the outputs in order, and each answer of the store decides how
to go on: with the next output after a write, and with the conclusion after a
refusal or a name that is no path. -/
theorem Ends.run_eq {options : Options} {files after : σ} {text : Text} {assembly : Assembly}
    {listing : List Text} {status : Except Abort Nat} {remark : Bool → Text}
    (ends : options.Ends files assembly status remark after)
    (assembles : options.Assembles files text (.ok assembly))
    (listed : Listing.lines (Program.ofText text) assembly.words assembly.diagnostics =
      .ok listing) (quiet verbose : Bool) :
    (options.withFlags quiet verbose).run files =
      ⟨status, if quiet then [] else Text.ofLines listing,
        tracing verbose assembly.words ++ remark verbose, after⟩ := by
  rw [run_of_assembles assembles listed, Outcome.after]
  cases ends with
  | reported flawed =>
    have errors : (options.planned assembly listing quiet verbose).hasErrors = true := by
      simpa [planned] using flawed
    rw [Plan.execute_of_errors _ _ errors]
    rfl
  | refused clean name fault after refused =>
    rw [execute_planned_of_clean _ _ _ _ _ _ _ clean, outputs]
    cases refused with
    | hexadecimal fault refuses =>
      rw [writeAll_of_refuses _ refuses]
      rfl
    | binary fault between writes refuses =>
      rw [writeAll_of_writes _ writes, writeAll_of_refuses _ refuses]
      rfl
  | blocked clean after blocked =>
    rw [execute_planned_of_clean _ _ _ _ _ _ _ clean, outputs, List.append_nil]
    cases blocked with
    | hexadecimal null =>
      rw [writeAll_of_null _ _ _ _ null]
      rfl
    | binary between writes null =>
      rw [writeAll_of_writes _ writes, writeAll_of_null _ _ _ _ null]
      rfl
  | delivered clean after delivers =>
    obtain ⟨between, writes, alsoWrites⟩ := delivers
    rw [execute_planned_of_clean _ _ _ _ _ _ _ clean, outputs, writeAll_of_writes _ writes,
      writeAll_of_writes _ alsoWrites]
    rfl

/-- Every course that applies is the run, under all flags. The source is asked
for first, then the assembly, and then the end of an assembled source; each
course settles one of these answers. -/
theorem Courses.run_eq {options : Options} {files : σ} {outcome : Bool → Bool → Outcome σ}
    (courses : options.Courses files outcome) (quiet verbose : Bool) :
    (options.withFlags quiet verbose).run files = outcome quiet verbose := by
  cases courses with
  | nameless null =>
    have nameless := Path.ofText?_of_null options.source null
    rw [run, perform, withFlags, nameless]
    rfl
  | unreadable fault unreadable =>
    have again : Unreadable files (options.withFlags quiet verbose).source fault := unreadable
    exact run_of_unreadable again
  | escaped text limit assembles =>
    have reads : Reads files (options.withFlags quiet verbose).source text := assembles.reads
    have unplanned : plan (options.withFlags quiet verbose) text = .error (.limit limit) := by
      simp only [plan, withFlags, assembles.assembled]
    rw [run_of_reads reads, unplanned]
    rfl
  | finished text assembly listing status remark after assembles listed ends =>
    exact ends.run_eq assembles listed quiet verbose

/-! ## Some course applies -/

/-- An assembled source leads to some end. With diagnostics it is reported, and
without them its words are delivered, refused or blocked. -/
theorem exists_ends (options : Options) (files : σ) (assembly : Assembly) :
    ∃ status remark after, options.Ends files assembly status remark after := by
  by_cases clean : assembly.diagnostics = []
  · rcases options.delivers_or_refused_or_blocked files assembly.words with
      ⟨after, delivers⟩ | ⟨name, fault, after, refused⟩ | ⟨after, blocked⟩
    · exact ⟨_, _, after, .delivered clean after delivers⟩
    · exact ⟨_, _, after, .refused clean name fault after refused⟩
    · exact ⟨_, _, after, .blocked clean after blocked⟩
  · exact ⟨_, _, files, .reported clean⟩

/-- Some course applies to every run. The listing of an assembled source never
fails, since the fields of every word cover it. -/
theorem exists_courses (options : Options) (files : σ) :
    ∃ outcome, options.Courses files outcome := by
  by_cases null : '\x00' ∈ options.source
  · exact ⟨_, .nameless null⟩
  rcases reads_or_unreadable files options.source null with ⟨text, reads⟩ | ⟨fault, unreadable⟩
  · cases assembled : ((Program.ofText text).assemble (some options.source)).result with
    | error limit => exact ⟨_, .escaped text limit ⟨reads, assembled⟩⟩
    | ok assembly =>
      obtain ⟨listing, listed⟩ := Program.exists_listing assembled
      obtain ⟨status, remark, after, ends⟩ := options.exists_ends files assembly
      exact ⟨_, .finished text assembly listing status remark after ⟨reads, assembled⟩ listed ends⟩
  · exact ⟨_, .unreadable fault unreadable⟩

/-- The runs under all flags are a course: some course applies, and it is these
runs. -/
theorem courses_run (options : Options) (files : σ) :
    options.Courses files fun quiet verbose => (options.withFlags quiet verbose).run files := by
  obtain ⟨outcome, courses⟩ := options.exists_courses files
  have same : (fun quiet verbose => (options.withFlags quiet verbose).run files) = outcome := by
    funext quiet verbose
    exact courses.run_eq quiet verbose
  exact same ▸ courses

/-- Only one course applies: every course that does is the run. -/
theorem Courses.unique {options : Options} {files : σ} {outcome other : Bool → Bool → Outcome σ}
    (courses : options.Courses files outcome) (others : options.Courses files other) :
    outcome = other := by
  funext quiet verbose
  rw [← courses.run_eq quiet verbose, others.run_eq quiet verbose]

/-- The course of a run whose source is assembled prints the listing and ends in
one of the ways of an assembled source. -/
theorem Courses.exists_ends {options : Options} {files : σ} {outcome : Bool → Bool → Outcome σ}
    (courses : options.Courses files outcome) {text : Text} {assembly : Assembly}
    (assembles : options.Assembles files text (.ok assembly)) :
    ∃ listing status remark after,
      Listing.lines (Program.ofText text) assembly.words assembly.diagnostics = .ok listing ∧
        options.Ends files assembly status remark after ∧
        outcome = fun quiet verbose =>
          ⟨status, if quiet then [] else Text.ofLines listing,
            tracing verbose assembly.words ++ remark verbose, after⟩ := by
  obtain ⟨listing, listed⟩ := Program.exists_listing assembles.assembled
  obtain ⟨status, remark, after, ends⟩ := options.exists_ends files assembly
  refine ⟨listing, status, remark, after, listed, ends, ?_⟩
  exact courses.unique
    (.finished text assembly listing status remark after assembles listed ends)

end Options

end CommandLine

end LineAssembler
