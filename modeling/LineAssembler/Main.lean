import LineAssembler.CommandLine.Run

/-!
# Entry point

A run in the surroundings of the operating system: the real files and the standard
streams.
-/

namespace LineAssembler

/-- The fault of a path that the operating system refused, with its number and
reason. A path that does not exist is told apart by its case alone. -/
def AccessFault.ofSystem : IO.Error → AccessFault
  | .noFileOrDirectory .. => .missing
  | .alreadyExists _ code reason | .otherError code reason | .resourceBusy code reason
  | .resourceVanished code reason | .unsupportedOperation code reason
  | .hardwareFault code reason | .unsatisfiedConstraints code reason
  | .illegalOperation code reason | .protocolError code reason | .timeExpired code reason
  | .interrupted _ code reason | .invalidArgument _ code reason
  | .permissionDenied _ code reason | .resourceExhausted _ code reason
  | .inappropriateType _ code reason | .noSuchThing _ code reason =>
    ⟨code.toNat, reason.toList⟩
  | .unexpectedEof => ⟨0, "Unexpected end of file".toList⟩
  | .userError reason => ⟨0, reason.toList⟩

namespace CommandLine

/-- The answer of the operating system to a request. -/
def answer {α : Type} (request : IO α) : IO (Except AccessFault α) := do
  try
    return .ok (← request)
  catch error => return .error (AccessFault.ofSystem error)

/-- The surroundings of the operating system. -/
def Surroundings.system : Surroundings IO where
  readFile path := answer (return (← IO.FS.readBinFile (String.ofList path.text)).toList)
  writeFile path bytes := answer (IO.FS.writeBinFile (String.ofList path.text) ⟨bytes.toArray⟩)
  print text := IO.print (String.ofList text)
  printError text := IO.eprint (String.ofList text)

end CommandLine

end LineAssembler

open LineAssembler CommandLine in
/-- Run the assembler on the words of the command line. A run that comes to no
status prints what ended it. -/
def main (words : List String) : IO UInt32 := do
  match ← perform .system (words.map String.toList) with
  | .ok status => return status.toUInt32
  | .error abort =>
    Surroundings.system.printError (abort.message ++ ['\n'])
    return 1
