import GoldfishRadio.Parser
import GoldfishRadio.HexBin
import GoldfishRadio.Base64
import GoldfishRadio.RadioSim
import GoldfishRadio.AtResponse.Basic
import GoldfishRadio.AtResponse.Payload
import GoldfishRadio.AtResponse.Parse
import GoldfishRadio.AtResponse.CallList
import GoldfishRadio.IdAllocator
import GoldfishRadio.AtResponse.Extension
import GoldfishRadio.Messaging
import GoldfishRadio.BroadcastConfig
import GoldfishRadio.Format
import GoldfishRadio.AtChannel.Conversation
import GoldfishRadio.AtChannel.Attribution
import GoldfishRadio.RadioData
import GoldfishRadio.AtChannel.Reader
import GoldfishRadio.AtChannel.Messages
import GoldfishRadio.AtChannel.Stream
import GoldfishRadio.AtChannel.ShortMessages
import GoldfishRadio.ParserRun
import GoldfishRadio.AtChannel.Requests
import GoldfishRadio.Services
import GoldfishRadio.RatUtils
import GoldfishRadio.RadioPower
import GoldfishRadio.RadioNetwork
import GoldfishRadio.IncomingSms
