import LineAssembler.CommandLine.Argument

/-!
# Options

The meaning of a command line: which file is assembled, where its words are
written, and what is printed. Words are read from left to right. The first plain
word that is not the value of a flag is the source; later plain words and unknown
options are collected, and are reported unless the source is missing. The last of
repeated flags counts. A request for help ends the reading at once.
-/

namespace LineAssembler.CommandLine

/-- What a command line asks for. An output without a name is not written. -/
structure Options where
  source : Text
  outHex : Text
  outBin : Text
  quiet : Bool
  verbose : Bool
deriving DecidableEq

/-- Why a command line does not lead to a run: help was asked for, or a word is
wrong. -/
inductive Interruption where
  | help
  | fault (fault : UsageFault)
deriving DecidableEq

/-- A flag and its value, which is empty for a flag that takes none. -/
abbrev Setting := Flag × Text

/-- The settings in a word, and a flag that still waits for its value. -/
abbrev Reading := List Setting × Option Flag

namespace Argument

/-- A flag without an attached value. -/
def bare (flag : Flag) : Reading :=
  if flag.takesValue then ([], some flag) else ([(flag, [])], none)

/-- A short flag and the text attached to it: the value of the flag, or, if the
flag takes none, the letters of more flags. -/
def joined (flag : Flag) : (attached : Text) → Except UsageFault Reading
  | [] => if flag.takesValue then .ok ([(flag, [])], none) else .error (.unexpectedValue flag [])
  | letter :: rest =>
    if flag.takesValue then .ok ([(flag, letter :: rest)], none)
    else match Flag.ofLetter? letter with
      | none => .error (.unexpectedValue flag (letter :: rest))
      | some next =>
        (if rest.isEmpty then .ok (bare next) else joined next rest).map
          fun (settings, waiting) => ((flag, []) :: settings, waiting)

/-- The settings in an argument. -/
def settings : Argument → Except UsageFault Reading
  | .plain _ | .unknown _ => .ok ([], none)
  | .short flag none | .long flag none => .ok (bare flag)
  | .short flag (some attached) => joined flag attached
  | .long flag (some attached) =>
    if flag.takesValue then .ok ([(flag, attached)], none)
    else .error (.unexpectedValue flag attached)

end Argument

/-- What has been read so far: the options, whether they have their source yet
and whether it was the last word read, and the words that found no use. -/
structure Progress where
  options : Options
  hasSource : Bool
  sourceIsLast : Bool
  unused : List Text

namespace Progress

/-- Before the first word. -/
def start : Progress := ⟨⟨[], [], [], false, false⟩, false, false, []⟩

/-- A name for an output. Two dashes attached to a flag name nothing. -/
def outputName (value : Text) : Text := if value = ['-', '-'] then [] else value

/-- Carry out one setting. -/
def set (progress : Progress) : Setting → Except Interruption Progress
  | (.help, _) => .error .help
  | (.outHex, value) =>
    .ok { progress with options := { progress.options with outHex := outputName value } }
  | (.outBin, value) =>
    .ok { progress with options := { progress.options with outBin := outputName value } }
  | (.quiet, _) => .ok { progress with options := { progress.options with quiet := true } }
  | (.verbose, _) => .ok { progress with options := { progress.options with verbose := true } }

/-- Carry out the settings of a word, which ends a run of plain words. -/
def setAll (progress : Progress) (settings : List Setting) : Except Interruption Progress :=
  settings.foldlM set { progress with sourceIsLast := false }

/-- Use a plain word as the source, or put it aside. -/
def takePlain (progress : Progress) (word : Text) : Progress :=
  if progress.hasSource then
    { progress with sourceIsLast := false, unused := progress.unused ++ [word] }
  else
    { progress with
      options := { progress.options with source := word }, hasSource := true, sourceIsLast := true }

/-- Put an unknown option aside. -/
def takeUnknown (progress : Progress) (word : Text) : Progress :=
  { progress with sourceIsLast := false, unused := progress.unused ++ [word] }

/-- Read arguments from left to right. A flag that waits for its value takes the
next argument if that is a plain word. -/
def take (progress : Progress) : List Argument → Except Interruption Progress
  | [] => .ok progress
  | .plain word :: rest => (progress.takePlain word).take rest
  | .unknown word :: rest => (progress.takeUnknown word).take rest
  | argument :: rest =>
    match argument.settings with
    | .error fault => .error (.fault fault)
    | .ok (settings, none) =>
      match progress.setAll settings with
      | .error interruption => .error interruption
      | .ok progress => progress.take rest
    | .ok (settings, some flag) =>
      match rest with
      | .plain value :: rest =>
        match progress.setAll (settings ++ [(flag, value)]) with
        | .error interruption => .error interruption
        | .ok progress => progress.take rest
      | _ => .error (.fault (.missingValue flag))

/-- Read the words after two dashes. The dashes are dropped together with the
source right before or after them, and are otherwise put aside with the rest. -/
def takeTail (progress : Progress) (words : List Text) : Progress :=
  if progress.hasSource then
    let dashes : List Text := if progress.sourceIsLast then [] else [['-', '-']]
    { progress with unused := progress.unused ++ dashes ++ words }
  else match words with
    | [] => progress
    | source :: rest =>
      { progress with
        options := { progress.options with source }, hasSource := true,
        unused := progress.unused ++ rest }

/-- The options, if there is a source and every word was used. -/
def finish (progress : Progress) : Except Interruption Options :=
  if !progress.hasSource then .error (.fault .missingSource)
  else if !progress.unused.isEmpty then .error (.fault (.unrecognized progress.unused))
  else .ok progress.options

end Progress

/-- The meaning of the words of a command line. All words before two dashes are
classified before any takes effect. -/
def Options.read (words : List Text) : Except Interruption Options :=
  let isWord : Text → Bool := (· != ['-', '-'])
  match Argument.classifyAll (words.takeWhile isWord) with
  | .error fault => .error (.fault fault)
  | .ok arguments =>
    match Progress.start.take arguments with
    | .error interruption => .error interruption
    | .ok progress =>
      match words.dropWhile isWord with
      | [] => progress.finish
      | _ :: rest => (progress.takeTail rest).finish

end LineAssembler.CommandLine
