import Portrait.Disk.Tree
import Portrait.Document.Print
import Portrait.Main
import Portrait.Sprite.Recorder
import Portrait.Proofs.Pose.Reachability
import Portrait.Proofs.Pose.Derivation
import Portrait.Proofs.Pose.Visits
import Portrait.Proofs.Pose.Sources
import Portrait.Proofs.Pose.Groups
import Portrait.Proofs.Pose.Cycle
import Portrait.Proofs.Pose.GroupReach
import Portrait.Proofs.Pose.Tidy
import Portrait.Proofs.Player.State
import Portrait.Proofs.Player.Agreement
import Portrait.Proofs.Sprite.Trace
import Portrait.Proofs.Sprite.History
import Portrait.Proofs.Player.History
import Portrait.Proofs.Player.Records
import Portrait.Proofs.Player.DrawOrder
import Portrait.Proofs.Text.ByteOrder
import Portrait.Proofs.Text.Utf8
import Portrait.Proofs.Player.Lifecycle
import Portrait.Proofs.Diagnostic.Soundness
import Portrait.Proofs.Player.Conflict
import Portrait.Proofs.Player.Override
import Portrait.Proofs.Player.Tidy
import Portrait.Proofs.Pose.Independence
import Portrait.Proofs.Json.Lexeme
import Portrait.Proofs.Json.Skip
import Portrait.Proofs.Json.Reader
import Portrait.Proofs.Json.Record
import Portrait.Proofs.Json.Soundness.Lexeme
import Portrait.Proofs.Json.Soundness.Skip
import Portrait.Proofs.Json.Soundness.Reader
import Portrait.Proofs.Json.Soundness.Record
import Portrait.Proofs.Document.Presentation
import Portrait.Proofs.Document.RoundTrip
import Portrait.Proofs.Document.Soundness
import Portrait.Proofs.Document.Load
import Portrait.Proofs.Tool.Views
import Portrait.Proofs.LastWriter
import Portrait.Proofs.Player.SetPose
import Portrait.Proofs.Pose.Inlining
import Portrait.Proofs.Tool.Checkers
import Portrait.Proofs.Diagnostic.OwnGroup
import Portrait.Proofs.Diagnostic.Placement
import Portrait.Proofs.Pose.Locality
import Portrait.Proofs.Player.LayerOrder
import Portrait.Proofs.Player.Action
import Portrait.Proofs.Selection
import Portrait.Proofs.Address.Joint
import Portrait.Proofs.Sprite.BlendMode
