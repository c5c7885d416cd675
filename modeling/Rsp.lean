import Rsp.Message.Suppression
import Rsp.Message.Resolution
import Rsp.Job.Serial
import Rsp.Server.Dispatches
import Rsp.Server.Writes
import Rsp.Broker.EventSubscriber
import Rsp.Client.Session
import Rsp.RoomServer.Indexes
import Rsp.RoomServer.Roster
import Rsp.RoomServer.Places
import Rsp.RoomServer.Emptying
import Rsp.UserServer.Registry
import Rsp.UserServer.Relay
import Rsp.Protocol.Channels
import Rsp.Protocol.Malformed
import Rsp.Protocol.Attachment
import Rsp.Protocol.Fidelity
import Rsp.Protocol.Conformance
