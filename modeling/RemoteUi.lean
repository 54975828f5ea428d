import RemoteUi.Client.App
import RemoteUi.Proofs.Build.Faults
import RemoteUi.Proofs.Build.LateOrder
import RemoteUi.Proofs.Build.Materialisation
import RemoteUi.Proofs.Build.PopupFirst
import RemoteUi.Proofs.Build.Removal
import RemoteUi.Proofs.Build.Reruns
import RemoteUi.Proofs.Build.Selections
import RemoteUi.Proofs.Build.Waiting
import RemoteUi.Proofs.Build.WindowName
import RemoteUi.Proofs.Build.WireOrder
import RemoteUi.Proofs.Client.Firing
import RemoteUi.Proofs.Client.Flags
import RemoteUi.Proofs.Client.Normalisation
import RemoteUi.Proofs.Server.Replay
import RemoteUi.Proofs.Server.Separation
import RemoteUi.Proofs.Session.Agreement
import RemoteUi.Proofs.Session.Lockstep
import RemoteUi.Proofs.Session.Mirror
import RemoteUi.Proofs.Settings
import RemoteUi.Proofs.Tree.Attachment
import RemoteUi.Proofs.Wire.CommandCodec
import RemoteUi.Proofs.Wire.Grammar
import RemoteUi.Proofs.Wire.StreamDomain
import RemoteUi.Server.Loopback
import RemoteUi.Tree.View
import RemoteUi.Wire.Json
