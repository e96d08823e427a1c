import LineAssembler.CommandLine.Run
import LineAssembler.Disassembly
import LineAssembler.Main
import LineAssembler.Proofs.LetterCase
import LineAssembler.Proofs.OperandGrammar
import LineAssembler.Proofs.Packing
import LineAssembler.Proofs.InstructionEncoding
import LineAssembler.Proofs.SourceLines
import LineAssembler.Proofs.LineGrammar
import LineAssembler.Proofs.Decoding
import LineAssembler.Proofs.CanonicalLines
import LineAssembler.Proofs.FaultIsolation
import LineAssembler.Proofs.Composition
import LineAssembler.Proofs.OutcomePrecedence
import LineAssembler.Proofs.FileMaps
import LineAssembler.Proofs.FileWrites
import LineAssembler.Proofs.WordListing
import LineAssembler.Proofs.RunCourses
import LineAssembler.Proofs.RunOutcomes
import LineAssembler.Proofs.LineEndings
import LineAssembler.Proofs.FaithfulListing
import LineAssembler.Proofs.EncodingTrace
import LineAssembler.Proofs.FlagIndependence
import LineAssembler.Proofs.WordFormats
import LineAssembler.Proofs.ExactPacking
import LineAssembler.Proofs.GroupedBits
import LineAssembler.Proofs.LineInvariance
import LineAssembler.Proofs.LowercaseForms
import LineAssembler.Proofs.NormalLines
import LineAssembler.Proofs.CaseInsensitivity
import LineAssembler.Proofs.ImmediateValues
import LineAssembler.Proofs.AddressSyntax
import LineAssembler.Proofs.ListingJoin
import LineAssembler.Proofs.KeptLines
import LineAssembler.Proofs.ExactTrace
import LineAssembler.Proofs.SignExtension
import LineAssembler.Proofs.Grouping
