import ActionBridge.Main
import ActionBridge.Proofs.Action.Lifecycle
import ActionBridge.Proofs.Bridge.Crashes
import ActionBridge.Proofs.Bridge.Dropping
import ActionBridge.Proofs.Bridge.Failures
import ActionBridge.Proofs.Bridge.Following
import ActionBridge.Proofs.Bridge.Reasons
import ActionBridge.Proofs.Bridge.Updates
import ActionBridge.Proofs.Command.ExitCodes
import ActionBridge.Proofs.Config.Acceptance
import ActionBridge.Proofs.Config.DataItems
import ActionBridge.Proofs.Config.FieldKeys
import ActionBridge.Proofs.Config.Goals
import ActionBridge.Proofs.DataItem.CamelCase
import ActionBridge.Proofs.DataItem.NormalForm
import ActionBridge.Proofs.Document.Occurrences
import ActionBridge.Proofs.Gateway.Histories
import ActionBridge.Proofs.Goal.Positions
import ActionBridge.Proofs.Goal.Wire
import ActionBridge.Proofs.Handshake.Delivery
import ActionBridge.Proofs.Handshake.Slot
import ActionBridge.Proofs.Multipart.ContentType
import ActionBridge.Proofs.Multipart.Cuts
import ActionBridge.Proofs.Multipart.RoundTrip
import ActionBridge.Proofs.Multipart.Slices
import ActionBridge.Proofs.Multipart.Truncation
import ActionBridge.Proofs.Shdr.Boundaries
import ActionBridge.Proofs.Shdr.Framing
import ActionBridge.Proofs.Shdr.Isolation
import ActionBridge.Proofs.Shdr.Replication
