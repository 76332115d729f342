import Startup.Failure
import Startup.Main
import Startup.Proofs.Arguments.Spelling
import Startup.Proofs.Settings.Isolation
import Startup.Proofs.Settings.Saving
import Startup.Settings.Snapshot
import Startup.Proofs.Number.Integer
import Startup.Proofs.Arguments.Given
import Startup.Proofs.Application.Overrides
import Startup.Proofs.Files.Directories
import Startup.Proofs.Log.Console
import Startup.Proofs.Directories
import Startup.Proofs.Settings.Assignments
import Startup.Proofs.Settings.Defaults
import Startup.Proofs.Settings.SettingUp
import Startup.Proofs.Application.Footprint
import Startup.Proofs.Application.Layers
import Startup.Proofs.Settings.Reopening
import Startup.Proofs.Settings.LifeCycle
import Startup.Application.Moments
import Startup.Proofs.Application.Moments
import Startup.Proofs.Application.Signals
import Startup.Proofs.Settings.Settling
import Startup.Proofs.Settings.WellEscaped
import Startup.Proofs.Settings.Snapshot
import Startup.Service.Sharing
import Startup.Proofs.Service.Overlap
import Startup.Proofs.Service.Undisturbed
import Startup.Proofs.Settings.Overlay
import Startup.Proofs.Settings.Intake
import Startup.Proofs.Settings.FailedSetUp
import Startup.Proofs.Arguments.Rendering
import Startup.Proofs.Arguments.Extension
import Startup.Proofs.Arguments.Reading
import Startup.Proofs.Settings.Dotted
import Startup.Proofs.Settings.Layout
import Startup.Proofs.Settings.Canonical
import Startup.Proofs.Settings.Verbatim
import Startup.Proofs.Settings.Typed
import Startup.Proofs.Initialization
import Startup.Proofs.Settings.Grammar
import Startup.Proofs.Number.Canonical
import Startup.Proofs.Arguments.Origin
import Startup.Proofs.Convertor
