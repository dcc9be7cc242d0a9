import ChatixProtocol.Payloads.Hello
import ChatixProtocol.Payloads.Auth
import ChatixProtocol.Payloads.Account
import ChatixProtocol.Payloads.Friend
import ChatixProtocol.Payloads.Control
import ChatixProtocol.Payloads.Message
import ChatixProtocol.Payloads.E2eKey
import ChatixProtocol.Header
import ChatixProtocol.PacketType
import ChatixProtocol.Codec.Reading
import ChatixProtocol.Codec.Writing
import ChatixProtocol.Foundation.Execution
import ChatixProtocol.Channel.Endpoints
import ChatixProtocol.Channel.Network
import ChatixProtocol.Channel.Link
import ChatixProtocol.Channel.Messages
import ChatixProtocol.Channel.Conversation
import ChatixProtocol.Channel.WireView
import ChatixProtocol.Foundation.Blocks
import ChatixProtocol.Channel.LossyChannel
import ChatixProtocol.Channel.BrokenStream
import ChatixProtocol.Handshake.SessionIsolation
import ChatixProtocol.Handshake.Completion
import ChatixProtocol.Handshake.AuthenticatedChannel
import ChatixProtocol.Handshake.Pairing
import ChatixProtocol.Handshake.Listener
import ChatixProtocol.Channel.NonceUniqueness
import ChatixProtocol.Channel.SecureChannel
import ChatixProtocol.Channel.ReceiveWindow
import ChatixProtocol.Payloads.Format
import ChatixProtocol.Codec.Ceilings
import ChatixProtocol.Payloads.Delivery
import ChatixProtocol.Payloads.Limits
import ChatixProtocol.Codec.RoundTrip
import ChatixProtocol.Codec.WriterLimits
import ChatixProtocol.Channel.StreamRoundTrip
import ChatixProtocol.Handshake.ClientAuthentication
import ChatixProtocol.EndToEnd.SenderAuthenticity
import ChatixProtocol.EndToEnd.Authorship
import ChatixProtocol.Codec.Framing
import ChatixProtocol.Crypto.KeySeparation
import ChatixProtocol.Crypto.SafetyNumber
import ChatixProtocol.Foundation.Text
import ChatixProtocol.Crypto.SafetyDigits
import ChatixProtocol.Handshake.Gate
import ChatixProtocol.Handshake.Teardown
import ChatixProtocol.Handshake.ServerAuthentication
import ChatixProtocol.Handshake.KeyAgreement
import ChatixProtocol.Channel.ReceivedPackets
import ChatixProtocol.Channel.Dialogue
import ChatixProtocol.EndToEnd.RoundTrip
import ChatixProtocol.EndToEnd.MessageServer
import ChatixProtocol.EndToEnd.MessageExchange
import ChatixProtocol.EndToEnd.Correspondents
import ChatixProtocol.EndToEnd.SafetyComparison
import ChatixProtocol.EndToEnd.Redelivery
import ChatixProtocol.EndToEnd.CipherUse
import ChatixProtocol.Parsing.PanicFreedom
import ChatixProtocol.EndToEnd.SharedKey
