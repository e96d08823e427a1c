import LineAssembler.CommandLine.Options
import LineAssembler.FileSystem
import LineAssembler.Listing

/-!
# Running the assembler

A run reads a source file, prints its listing and its diagnostics, and, if there
are no diagnostics, writes the words to the requested files. Nothing is written
before the whole source has been assembled. What a run prints and writes is
planned from the text of the source alone; the plan is then carried out.

A run is written once, for whatever its surroundings are: what answers its requests to
read and write files, and where it prints to. In the surroundings of a store of files,
a run has an outcome.
-/

namespace LineAssembler.CommandLine

/-- What ends a run without an exit status: a conversion past the digit limit, a
word that its fields do not cover, or a path that holds a null character. -/
inductive Abort where
  | limit (limit : DigitLimit)
  | listing (fault : Text.GroupFault)
  | nullCharacter
deriving DecidableEq

/-- The wording of what ended a run. -/
def Abort.message : Abort → Text
  | .limit cause => cause.message
  | .listing cause => cause.message
  | .nullCharacter => "embedded null byte".toList

/-- Why a source cannot be read. -/
inductive SourceFault where
  | access (fault : AccessFault)
  | encoding (fault : Text.Utf8.Fault)
deriving DecidableEq

/-- A source that cannot be read, as it is printed. -/
def SourceFault.render (fault : SourceFault) (path : Text) : Text :=
  let cause := match fault with
    | .access fault => fault.message path
    | .encoding fault => fault.message
  "ERROR: no pude leer ".toList ++ path ++ ": ".toList ++ cause ++ ['\n']

/-- Why an output cannot be written: its path is refused at once, or by the file
system. -/
inductive OutputFault where
  | nullCharacter
  | access (path : Text) (fault : AccessFault)
deriving DecidableEq

/-- An output that the file system refuses, as it is printed. -/
def renderRefusal (path : Text) (fault : AccessFault) : Text :=
  "ERROR al escribir salidas: ".toList ++ fault.message path ++ ['\n']

/-- The text of a source, from what reading its file came to. -/
def readSource : Except AccessFault (List UInt8) → Except SourceFault Text
  | .error fault => .error (.access fault)
  | .ok bytes => ((Text.Utf8.decode bytes).map Text.normalizeNewlines).mapError .encoding

/-- What a run prints and writes once its source has been assembled. -/
structure Plan where
  /-- The listing. -/
  listing : Text
  /-- The diagnostics. -/
  report : Text
  /-- Whether there are diagnostics; nothing is written then. -/
  hasErrors : Bool
  /-- The files to write, in order. -/
  outputs : List (Text × Text)
  /-- What is printed once every file has been written. -/
  closing : Text

/-- The events that a verbose run prints. -/
def renderEvents (events : List Event) : Text :=
  Text.ofLines ((events.filter (·.level = .info)).map Event.render)

/-- What a run prints while it assembles a text, if it is verbose. -/
def Options.trace (options : Options) (text : Text) : Text :=
  if options.verbose then
    renderEvents ((Program.ofText text).assemble (some options.source)).events
  else []

/-- The files that the options ask for: the hexadecimal words before the binary
ones. -/
def outputs (options : Options) (words : List Encoded) : List (Text × Text) :=
  [(options.outHex, Text.ofLines (Listing.hexadecimalLines words)),
   (options.outBin, Text.ofLines (Listing.binaryLines words))].filter (!·.1.isEmpty)

/-- Plan a run over the text of its source. -/
def plan (options : Options) (text : Text) : Except Abort Plan :=
  let program := Program.ofText text
  match (program.assemble (some options.source)).result with
  | .error limit => .error (.limit limit)
  | .ok assembly =>
    match Listing.lines program assembly.words assembly.diagnostics with
    | .error fault => .error (.listing fault)
    | .ok listing =>
      let count := assembly.words.length
      let finished := if options.verbose then renderEvents [.assembled count options.source] else []
      .ok {
        listing := if options.quiet then [] else Text.ofLines listing
        report := Text.ofLines (assembly.diagnostics.map Diagnostic.render)
        hasErrors := !assembly.diagnostics.isEmpty
        outputs := outputs options assembly.words
        closing := finished ++ "OK: ".toList ++ Numeral.ofNat count ++ " instrucciones\n".toList }

/-- What a run asks of its surroundings: the bytes of a file, other bytes in a
file, and texts to be printed on either stream. -/
structure Surroundings (m : Type → Type) where
  readFile : Path → m (Except AccessFault (List UInt8))
  writeFile : Path → List UInt8 → m (Except AccessFault Unit)
  print : Text → m Unit
  printError : Text → m Unit

section Perform

variable {m : Type → Type} [Monad m] (around : Surroundings m)

/-- Write files in order up to the first that cannot be written. A path is
looked at only when its turn comes. -/
def writeAll : List (Text × Text) → m (Option OutputFault)
  | [] => return none
  | (name, content) :: rest =>
    match Path.ofText? name with
    | none => return some .nullCharacter
    | some path => do
      match ← around.writeFile path (Text.Utf8.encode content) with
      | .error fault => return some (.access name fault)
      | .ok () => writeAll rest

/-- Come to an end once the files have been written or one cannot be. -/
def Plan.conclude (plan : Plan) : Option OutputFault → m (Except Abort Nat)
  | none => do
    around.printError plan.closing
    return .ok 0
  | some (.access path fault) => do
    around.printError (renderRefusal path fault)
    return .ok 3
  | some .nullCharacter => return .error .nullCharacter

/-- Carry out a plan. Files are written only if there are no diagnostics. -/
def Plan.execute (plan : Plan) : m (Except Abort Nat) := do
  around.print plan.listing
  around.printError plan.report
  if plan.hasErrors then return .ok 1
  plan.conclude around (← writeAll around plan.outputs)

/-- Run the assembler with given options. A run that ends without a status has
printed its trace up to there. -/
def Options.perform (options : Options) : m (Except Abort Nat) :=
  match Path.ofText? options.source with
  | none => return .error .nullCharacter
  | some path => do
    match readSource (← around.readFile path) with
    | .error fault =>
      around.printError (fault.render options.source)
      return .ok 2
    | .ok text =>
      around.printError (options.trace text)
      match plan options text with
      | .error abort => return .error abort
      | .ok plan => plan.execute around

/-- Run the assembler on the words of a command line. -/
def perform (words : List Text) : m (Except Abort Nat) :=
  match Options.read words with
  | .error .help => do
    around.print helpText
    return .ok 0
  | .error (.fault fault) => do
    around.printError fault.render
    return .ok 2
  | .ok options => options.perform around

end Perform

section Outcome

variable {σ : Type} [FileStore σ]

/-- What a run changes: the files, and what has been printed on either stream. -/
structure World (σ : Type) where
  files : σ
  stdout : Text
  stderr : Text

/-- The surroundings of a store of files. A request that the store refuses
changes nothing. -/
def Surroundings.ofStore (σ : Type) [FileStore σ] : Surroundings (StateM (World σ)) where
  readFile path world := (FileStore.read world.files path, world)
  writeFile path bytes world :=
    match FileStore.write world.files path bytes with
    | .error fault => (.error fault, world)
    | .ok files => (.ok (), { world with files })
  print text world := ((), { world with stdout := world.stdout ++ text })
  printError text world := ((), { world with stderr := world.stderr ++ text })

/-- What a run leaves behind: an exit status or what ended the run without one,
what was printed, and the files. -/
structure Outcome (σ : Type) where
  status : Except Abort Nat
  stdout : Text
  stderr : Text
  files : σ

/-- The outcome of a computation in a world. -/
def Outcome.after (computation : StateM (World σ) (Except Abort Nat)) (world : World σ) :
    Outcome σ :=
  let (status, world) := computation world
  ⟨status, world.stdout, world.stderr, world.files⟩

/-- The outcome of a run with given options, before which nothing was printed. -/
def Options.run (options : Options) (files : σ) : Outcome σ :=
  .after (options.perform (.ofStore σ)) ⟨files, [], []⟩

/-- The outcome of a run on the words of a command line. -/
def run (words : List Text) (files : σ) : Outcome σ :=
  .after (perform (.ofStore σ) words) ⟨files, [], []⟩

end Outcome

end LineAssembler.CommandLine
