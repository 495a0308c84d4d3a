import OrcConversion.Arrow.Building
import OrcConversion.Arrow.DataType
import OrcConversion.Arrow.Flatten
import OrcConversion.Arrow.Schema
import OrcConversion.Catalog.Document
import OrcConversion.Catalog.Settings
import OrcConversion.Catalog.Store
import OrcConversion.Conversion.Batch
import OrcConversion.Conversion.Destination
import OrcConversion.Conversion.Entity
import OrcConversion.Conversion.Finalization
import OrcConversion.Conversion.JobState
import OrcConversion.Conversion.Planning
import OrcConversion.Conversion.Properties
import OrcConversion.Conversion.PublishPlan
import OrcConversion.Conversion.Publishing
import OrcConversion.Conversion.Staging
import OrcConversion.Conversion.Target
import OrcConversion.Disk.Action
import OrcConversion.Disk.Change
import OrcConversion.Disk.Entry
import OrcConversion.Disk.Lookup
import OrcConversion.Disk.Operations
import OrcConversion.Disk.Path
import OrcConversion.Disk.Tree
import OrcConversion.Failure
import OrcConversion.Hive.Column
import OrcConversion.Hive.Quoting
import OrcConversion.Hive.Selection
import OrcConversion.Hive.Statement
import OrcConversion.Journal.Format
import OrcConversion.Journal.Loggers
import OrcConversion.Journal.Record
import OrcConversion.Json.Basic
import OrcConversion.Json.Reader
import OrcConversion.Json.Writer
import OrcConversion.Number.Binary64
import OrcConversion.Number.Word
import OrcConversion.OrderedMap
import OrcConversion.Partition.Directory
import OrcConversion.Partition.Replaced
import OrcConversion.Partition.Spec
import OrcConversion.Proofs.Workflow.Exchanges
import OrcConversion.Raw.Checked
import OrcConversion.Raw.Problem
import OrcConversion.Raw.Records
import OrcConversion.Raw.Types
import OrcConversion.Text.Blank
import OrcConversion.Text.CaseTable
import OrcConversion.Text.DigitTable
import OrcConversion.Text.Lines
import OrcConversion.Text.Lowercase
import OrcConversion.Text.Numeral
import OrcConversion.Text.Pieces
import OrcConversion.Text.PrintableTable
import OrcConversion.Text.Quoted
import OrcConversion.Text.WordTable
import OrcConversion.Workflow.Basic
import OrcConversion.Workflow.Rehearsal
import OrcConversion.Workflow.Services
import OrcConversion.Proofs.Workflow.Stopping
import OrcConversion.Proofs.Conversion.PublishingOrder
import OrcConversion.Proofs.Conversion.Publication
import OrcConversion.Proofs.Conversion.PartitionOrder
import OrcConversion.Proofs.Partition.Reading
import OrcConversion.Proofs.Conversion.Retirement
import OrcConversion.Proofs.Json.Texts
import OrcConversion.Proofs.Json.Values
import OrcConversion.Proofs.Conversion.JobState
import OrcConversion.Proofs.Workflow.Halting
import OrcConversion.Proofs.Conversion.PlanBasis
import OrcConversion.Proofs.Conversion.Halting
import OrcConversion.Proofs.Conversion.Checking
import OrcConversion.Proofs.Conversion.Phases
import OrcConversion.Proofs.Conversion.PhaseCalls
import OrcConversion.Proofs.Conversion.PlanningRuns
import OrcConversion.Proofs.Conversion.FailurePhases
import OrcConversion.Proofs.Hive.Statements
import OrcConversion.Proofs.Arrow.Paths
import OrcConversion.Proofs.Arrow.Leaves
import OrcConversion.Proofs.Conversion.PlanningFiles
import OrcConversion.Proofs.Conversion.DroppedPartitions
import OrcConversion.Proofs.Conversion.ColumnAlignment
import OrcConversion.Proofs.Conversion.FlattenedSelection
import OrcConversion.Proofs.Text.Joining
import OrcConversion.Proofs.Partition.Recording
import OrcConversion.Proofs.Hive.StatementScanning
import OrcConversion.Proofs.Conversion.LocationAgreement
import OrcConversion.Proofs.Json.Members
import OrcConversion.Proofs.Raw.Accepted
import OrcConversion.Proofs.Conversion.StateAcceptance
import OrcConversion.Proofs.Conversion.PublishedPlaces
import OrcConversion.Proofs.Hive.SourceSpelling
import OrcConversion.Proofs.Catalog.Entries
import OrcConversion.Proofs.Catalog.Connecting
import OrcConversion.Proofs.Text.Lowercase
import OrcConversion.Proofs.Arrow.FlatNames
import OrcConversion.Proofs.Conversion.FlattenedColumns
import OrcConversion.Proofs.Partition.DirectoryNames
import OrcConversion.Proofs.Conversion.EvolutionRuns
import OrcConversion.Proofs.Conversion.EmptyTables
import OrcConversion.Proofs.Conversion.MissingSource
import OrcConversion.Proofs.Text.Listings
import OrcConversion.Proofs.Partition.RecordLayouts
import OrcConversion.Proofs.Partition.SpecLayouts
import OrcConversion.Proofs.Disk.Replacing
import OrcConversion.Proofs.Arrow.Parts
import OrcConversion.Proofs.Hive.Unsupported
import OrcConversion.Proofs.Hive.Shapes
import OrcConversion.Proofs.Hive.TypeTexts
import OrcConversion.Proofs.Arrow.LeafColumns
import OrcConversion.Proofs.Conversion.LocationsApart
import OrcConversion.Proofs.Conversion.ParallelRuns
import OrcConversion.Proofs.Conversion.ThroughCursors
import OrcConversion.Proofs.Conversion.PropertyLists
import OrcConversion.Proofs.Conversion.LoadedTargets
import OrcConversion.Proofs.Conversion.StagingNames
import OrcConversion.Proofs.Conversion.StagingPlans
import OrcConversion.Proofs.Text.Summaries
