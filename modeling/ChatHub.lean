import ChatHub.Command
import ChatHub.Text.Blank
import ChatHub.Text.Decimal
import ChatHub.Message
import ChatHub.Line
import ChatHub.Fault
import ChatHub.Client
import ChatHub.Net.Host
import ChatHub.Net.Name
import ChatHub.Net.Address
import ChatHub.Net.Socket
import ChatHub.Server.Config
import ChatHub.Text.Utf8
import ChatHub.Wire.Bytes
import ChatHub.Wire.Record
import ChatHub.Wire.Frame
import ChatHub.Wire.Decoder
import ChatHub.Stream.Reader
import ChatHub.Stream.Writer
import ChatHub.Stream.Exchange
import ChatHub.Room.Peer
import ChatHub.Room.Registry
import ChatHub.Room.Router
import ChatHub.Room.Script
import ChatHub.Digest.Sha1
import ChatHub.Text.Base64
import ChatHub.Web.Request
import ChatHub.Web.Target
import ChatHub.Web.Handshake
import ChatHub.Web.Library
import ChatHub.Web.Frame
import ChatHub.Web.Tungstenite
import ChatHub.Web.Gateway
import ChatHub.Main
import ChatHub.Proofs.LineRoundTrip
import ChatHub.Proofs.RegistryRun
import ChatHub.Proofs.Delivery
import ChatHub.Proofs.Cascade
import ChatHub.Proofs.StepLog
import ChatHub.Proofs.StepSpec
import ChatHub.Proofs.Departures
import ChatHub.Proofs.Status
import ChatHub.Proofs.Utf8RoundTrip
import ChatHub.Proofs.FrameRoundTrip
import ChatHub.Proofs.StreamRoundTrip
import ChatHub.Proofs.FlowerCooldown
import ChatHub.Proofs.TextDelivery
import ChatHub.Proofs.Ignored
import ChatHub.Proofs.Broadcast
import ChatHub.Proofs.LineGrammar
import ChatHub.Proofs.Utf8Strict
import ChatHub.Proofs.DecoderAnswers
import ChatHub.Proofs.StreamUnits
import ChatHub.Proofs.ClientFrames
import ChatHub.Proofs.RoomQueues
import ChatHub.Proofs.GatewayWriter
import ChatHub.Proofs.GatewayServes
import ChatHub.Proofs.WebSession
