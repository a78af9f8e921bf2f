import Vnts.Entity
import Vnts.Message
import Vnts.Directory
import Vnts.Invariant
import Vnts.Reference
import Vnts.Packet
import Vnts.Handler
import Vnts.Frame
import Vnts.Server
import Vnts.Isolation
import Vnts.Concurrent
import Vnts.Relay
import Vnts.Replies
import Vnts.Sessions
import Vnts.Answers
import Vnts.Interleaving
import Vnts.Ownership
import Vnts.Groups
