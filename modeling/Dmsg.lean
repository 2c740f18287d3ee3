import Dmsg.Frame
import Dmsg.ReadFrame
import Dmsg.FlowControl
import Dmsg.Cipher
import Dmsg.DialRequest
import Dmsg.PortManager
import Dmsg.PtyCli
import Dmsg.PortAllocation
import Dmsg.Transport.Manager
import Dmsg.Transport.Step
import Dmsg.Transport.Shutdown
import Dmsg.Transport.Release
import Dmsg.Transport.Ownership
import Dmsg.Transport.Workers
import Dmsg.Transport.Events
import Dmsg.Transport.ErrorPolicy
import Dmsg.Transport.SingleWorker
import Dmsg.Transport.TrChan
import Dmsg.Transport.Serve
import Dmsg.Transport.Discovery
import Dmsg.Transport.Calls
import Dmsg.Json
import Dmsg.Handshake
import Dmsg.HandshakeErrors
