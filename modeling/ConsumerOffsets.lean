import ConsumerOffsets.Main
import ConsumerOffsets.Binary.Script
import ConsumerOffsets.Binary.Encoder
import ConsumerOffsets.Stored.Assignment
import ConsumerOffsets.Stored.Group
import ConsumerOffsets.Stored.Offset
import ConsumerOffsets.Proofs.Inversion
import ConsumerOffsets.Proofs.Unambiguous
import ConsumerOffsets.Proofs.Announced
import ConsumerOffsets.Proofs.LastWins
import ConsumerOffsets.Proofs.Message
import ConsumerOffsets.Proofs.GroupRoundTrip
import ConsumerOffsets.Proofs.Truncation
import ConsumerOffsets.Proofs.Appending
import ConsumerOffsets.Proofs.Failures
import ConsumerOffsets.Proofs.Reports
import ConsumerOffsets.Proofs.OwnershipRuns
import ConsumerOffsets.Proofs.Keys
import ConsumerOffsets.Proofs.OffsetRoundTrip
import ConsumerOffsets.Proofs.PassedOver
import ConsumerOffsets.Proofs.Tombstones
import ConsumerOffsets.Proofs.HexText
import ConsumerOffsets.Proofs.Environments
import ConsumerOffsets.Proofs.RecordObjects
import ConsumerOffsets.Proofs.Endings
import ConsumerOffsets.Proofs.FailureEntries
import ConsumerOffsets.Proofs.WrongVersion
import ConsumerOffsets.Proofs.JsonReading
import ConsumerOffsets.Proofs.JsonOrder
import ConsumerOffsets.Proofs.PrintedRecords
import ConsumerOffsets.Proofs.HelpLayout
import ConsumerOffsets.Proofs.LogLines
import ConsumerOffsets.Proofs.EnvironmentFilter
import ConsumerOffsets.Proofs.WrittenJson
import ConsumerOffsets.Proofs.EarlyRefusal
import ConsumerOffsets.Proofs.AssignmentBodies
import ConsumerOffsets.Text.Utf8.Table
import ConsumerOffsets.Proofs.ReplacedText
import ConsumerOffsets.Binary.Reader
import ConsumerOffsets.Reading
import ConsumerOffsets.Proofs.AnyPosition
import ConsumerOffsets.Proofs.Containment
import ConsumerOffsets.Proofs.HexSpelling
import ConsumerOffsets.Proofs.BoundedWork
import ConsumerOffsets.Proofs.FlagPositions
import ConsumerOffsets.Proofs.FixedWidth
