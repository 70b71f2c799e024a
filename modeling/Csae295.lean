import Csae295.Verification.Acceptance
import Csae295.Verification.Bcd
import Csae295.Verification.BcdTime
import Csae295.Verification.ClassVersion
import Csae295.Verification.Client
import Csae295.Verification.Connection
import Csae295.Verification.Consumers
import Csae295.Verification.Coordination
import Csae295.Verification.Delivery
import Csae295.Verification.Dispatch
import Csae295.Verification.Draining
import Csae295.Verification.Dump
import Csae295.Verification.ExampleMessages
import Csae295.Verification.FrameDump
import Csae295.Verification.Heartbeat
import Csae295.Verification.HexRoundTrip
import Csae295.Verification.Independence
import Csae295.Verification.Memoryless
import Csae295.Verification.Notifications
import Csae295.Verification.PackFrame
import Csae295.Verification.PackSafety
import Csae295.Verification.PrintSafety
import Csae295.Verification.Receiving
import Csae295.Verification.Recovery
import Csae295.Verification.Representation
import Csae295.Verification.Resources
import Csae295.Verification.Returning
import Csae295.Verification.RoundTrip
import Csae295.Verification.SendQueue
import Csae295.Verification.Sending
import Csae295.Verification.Sessions
import Csae295.Verification.SharedQueue
import Csae295.Verification.StateCodec
import Csae295.Verification.Stopping
import Csae295.Verification.StringToBytes
import Csae295.Verification.Survival
import Csae295.Verification.TextTime
import Csae295.Verification.Threads
import Csae295.Verification.Timer
import Csae295.Verification.UnpackSafety
