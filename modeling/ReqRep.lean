import ReqRep.Layout.Crash
import ReqRep.Layout.Regions
import ReqRep.Queue.Crash
import ReqRep.Queue.Reference
import ReqRep.Queue.Leftover
import ReqRep.Slots.Inert
import ReqRep.Slots.Complete
import ReqRep.Slots.Refused
import ReqRep.Machine.Leak
import ReqRep.Machine.Owner
import ReqRep.Machine.Route
import ReqRep.Machine.Settle
import ReqRep.Machine.SendWait
import ReqRep.Machine.Sleep
import ReqRep.Machine.Recover
import ReqRep.Machine.Death
import ReqRep.Mutex.Wake
import ReqRep.Machine.Crowd
import ReqRep.Machine.Stranded
import ReqRep.Machine.Counted
import ReqRep.Machine.Answers
