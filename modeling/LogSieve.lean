import LogSieve.Machine
import LogSieve.Main
import LogSieve.Proofs.Cancellation
import LogSieve.Proofs.CharacterSets
import LogSieve.Proofs.PatternSearch
import LogSieve.Proofs.FlatFilter
import LogSieve.Proofs.PointEvaluation
import LogSieve.Proofs.Verdict
import LogSieve.Proofs.Json.Tokens
import LogSieve.Proofs.Json.Values
import LogSieve.Proofs.Calendar
import LogSieve.Proofs.Json.Records
import LogSieve.Proofs.Timestamps
import LogSieve.Proofs.Documents
import LogSieve.Proofs.Files.Paths
import LogSieve.Proofs.Files.Trees
import LogSieve.Proofs.DocumentNames
import LogSieve.Proofs.MachineRequests
import LogSieve.Proofs.Saving
import LogSieve.Proofs.Operands
import LogSieve.Proofs.Utf8
import LogSieve.Proofs.Shelf
import LogSieve.Proofs.StoreCalls
import LogSieve.Proofs.Rearrangement
import LogSieve.Proofs.AfterCancellation
import LogSieve.Proofs.LineIdentity
import LogSieve.Proofs.Readings
import LogSieve.Proofs.Loading
import LogSieve.Proofs.SaveCommand
import LogSieve.Proofs.Provenance
import LogSieve.Proofs.Demand
import LogSieve.Proofs.UnreadFields
import LogSieve.Proofs.Planning
import LogSieve.Proofs.LetterCase
import LogSieve.Proofs.DocumentFiles
import LogSieve.Proofs.LineByLine
import LogSieve.Proofs.CalendarOrder
import LogSieve.Proofs.Spellings
import LogSieve.Proofs.InstantVerdicts
import LogSieve.Proofs.Json.OneLine
import LogSieve.Proofs.WrittenRecords
import LogSieve.Proofs.WrittenLines
import LogSieve.Proofs.Refiltering
import LogSieve.Proofs.Json.ReadValues
import LogSieve.Proofs.Json.Sameness
import LogSieve.Proofs.Terms
import LogSieve.Proofs.Notices
import LogSieve.Proofs.VacuousOperands
import LogSieve.Proofs.Repetitions
import LogSieve.Proofs.StableOrder
import LogSieve.Proofs.ProcessIds
import LogSieve.Proofs.PrintedLines
