import Wireframe.Document.Loading
import Wireframe.Node.Encoding
import Wireframe.Player
import Wireframe.Preview.Operation
import Wireframe.Version
import Wireframe.Proofs.Operations
import Wireframe.Proofs.EntryLookups
import Wireframe.Proofs.Paths
import Wireframe.Proofs.WriteFrames
import Wireframe.Proofs.DottedPaths
import Wireframe.Proofs.BindingGrammar
import Wireframe.Proofs.BoundControls
import Wireframe.Proofs.ItemBindings
import Wireframe.Proofs.SessionLog
import Wireframe.Proofs.Replay
import Wireframe.Proofs.CurrentScreen
import Wireframe.Proofs.Traversal
import Wireframe.Proofs.Naming
import Wireframe.Proofs.NodeIds
import Wireframe.Proofs.DistinctKeys
import Wireframe.Proofs.FoldedProps
import Wireframe.Proofs.Loading
import Wireframe.Proofs.TabIds
import Wireframe.Proofs.TabLoading
import Wireframe.Proofs.Parts
import Wireframe.Proofs.Targets
import Wireframe.Proofs.Addresses
import Wireframe.Proofs.LocalValues
import Wireframe.Proofs.PageIsolation
import Wireframe.Proofs.LocalWrites
import Wireframe.Proofs.SnackbarTimer
import Wireframe.Proofs.EscapedTexts
import Wireframe.Proofs.MarkupTokens
import Wireframe.Proofs.TagOutline
import Wireframe.Proofs.DrawnNodes
import Wireframe.Proofs.NodeElements
import Wireframe.Proofs.ScreenElements
import Wireframe.Proofs.Degradations
import Wireframe.Proofs.ScreenRegions
import Wireframe.Proofs.EventSources
import Wireframe.Proofs.CleanRuns
import Wireframe.Proofs.Nesting
import Wireframe.Proofs.ExtractedDrawings
import Wireframe.Proofs.ExtractedReadings
import Wireframe.Proofs.ExtractedScreens
import Wireframe.Proofs.ExtractedDocuments
import Wireframe.Proofs.Extraction
import Wireframe.Proofs.TimerLedger
import Wireframe.Proofs.HandlerRegistry
import Wireframe.Proofs.SnackbarFlag
import Wireframe.Proofs.IgnoredMessages
import Wireframe.Proofs.ReadProps
import Wireframe.Proofs.ShownValues
import Wireframe.Proofs.TypedTexts
import Wireframe.Proofs.FlippedControls
import Wireframe.Proofs.JsonEquality
import Wireframe.Proofs.DistinctValues
import Wireframe.Proofs.PickerCycles
import Wireframe.Proofs.Autoplay
import Wireframe.Proofs.PlayerStates
import Wireframe.Proofs.CatchingUp
import Wireframe.Proofs.Teardown
import Wireframe.Proofs.Overrides
import Wireframe.Proofs.Popups
import Wireframe.Proofs.DataReads
import Wireframe.Proofs.Lists
import Wireframe.Proofs.DiagnosticScopes
import Wireframe.Proofs.DataTemplates
import Wireframe.Proofs.SortedProps
import Wireframe.Proofs.Growth
import Wireframe.Proofs.DeclaredActions
import Wireframe.Proofs.HostConnection
import Wireframe.Proofs.WrittenNodes
import Wireframe.Proofs.GridCells
import Wireframe.Proofs.ResolvedStyles
import Wireframe.Proofs.StackVisits
import Wireframe.Proofs.Envelopes
import Wireframe.Proofs.CalendarDays
import Wireframe.Proofs.Timestamps
import Wireframe.Proofs.WrittenDays
import Wireframe.Proofs.RelativeDates
import Wireframe.Proofs.HexColors
import Wireframe.Proofs.ReadNodes
