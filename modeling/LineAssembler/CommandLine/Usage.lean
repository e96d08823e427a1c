import LineAssembler.CommandLine.Flag
import LineAssembler.Text.Quoted

/-!
# Usage

The help text, and what can be wrong with the words of a command line.
-/

namespace LineAssembler.CommandLine

/-- The summary of the command line. -/
def usage : Text :=
  "usage: asm374 [-h] [-o OUT_HEX] [-b OUT_BIN] [-q] [-v] source\n".toList

/-- The help text. -/
def helpText : Text :=
  usage ++ Text.ofLines
    ["".toList,
     "Ensamblador de 32 bits para la CPU 374".toList,
     "".toList,
     "positional arguments:".toList,
     "  source                archivo .asm de entrada".toList,
     "".toList,
     "options:".toList,
     "  -h, --help            show this help message and exit".toList,
     "  -o OUT_HEX, --out-hex OUT_HEX".toList,
     "                        archivo de salida con palabras en hexadecimal".toList,
     "  -b OUT_BIN, --out-bin OUT_BIN".toList,
     "                        archivo de salida con palabras en binario ASCII".toList,
     "  -q, --quiet           no imprimir el listado".toList,
     "  -v, --verbose         traza de la codificación por stderr".toList]

/-- What can be wrong with the words of a command line. -/
inductive UsageFault where
  | missingSource
  | unrecognized (words : List Text)
  | missingValue (flag : Flag)
  | unexpectedValue (flag : Flag) (value : Text)
  | ambiguous (word : Text) (candidates : List Flag)
deriving DecidableEq

namespace UsageFault

/-- The wording of a fault. -/
def message : UsageFault → Text
  | .missingSource => "the following arguments are required: source".toList
  | .unrecognized words => "unrecognized arguments: ".toList ++ [' '].intercalate words
  | .missingValue flag => "argument ".toList ++ flag.names ++ ": expected one argument".toList
  | .unexpectedValue flag value =>
    "argument ".toList ++ flag.names ++ ": ignored explicit argument ".toList ++
      Text.Quoted.quote value
  | .ambiguous word candidates =>
    "ambiguous option: ".toList ++ word ++ " could match ".toList ++
      ", ".toList.intercalate (candidates.map Flag.long)

/-- A fault as it is printed: the summary of the command line and the wording. -/
def render (fault : UsageFault) : Text :=
  usage ++ "asm374: error: ".toList ++ fault.message ++ ['\n']

end UsageFault

end LineAssembler.CommandLine
