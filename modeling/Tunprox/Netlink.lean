import Tunprox.Event
import Tunprox.InputLoop

/-!
# The tool's end of the netlink socket

The functions of `ldt_nl.c` that take messages from the socket.  The events of
all devices and the replies to the commands arrive on one socket: `ldt_getinfo`
drops the events it meets while it waits for a reply, and `ldt_event_recv` drops
the replies.  What `fnl_recv` returns call by call is a list of deliveries, and
waiting longer than that is a timeout.
-/

namespace Tunprox.Netlink

open Event InputLoop

def RERR_OK : Int := 0
def RERR_FAIL : Int := -5
def RERR_INTERNAL : Int := -8
def RERR_SYSTEM : Int := -9
def RERR_PARAM : Int := -10
def RERR_NOMEM : Int := -11
def RERR_NOT_FOUND : Int := -12
def RERR_TIMEDOUT : Int := -13

/-- What `xml_search` finds in the text of an event. -/
structure XmlEvent where
  iface : Option (List UInt8)
  pdev : Option (List UInt8)
  desc : Option (List UInt8)
  remaddr : Option (List UInt8)
  remport : Option (List UInt8)
  subflow : Option (List UInt8)
  deriving DecidableEq

/-- An event message: its type and the result of `xml_parse` on its text, if it
has one. -/
structure RecvEvent where
  evtype : EvType
  sarg : Option (Except Int XmlEvent)

/-- The result of one call of `fnl_recv`.  After an error, `timeLeft` tells
whether the time that is left allows another try. -/
inductive Delivery where
  | failed (ret : Int) (timeLeft : Bool)
  | nlmsgError (error : Int) (timeLeft : Bool)
  | info (ret : Int)
  | event (event : RecvEvent)

/-- `fnl_getcmd` of an error message, which is the low byte of the error. -/
def errorCmd (error : Int) : Int :=
  error % 256

/-- `NLMSG_LENGTH(sizeof(struct nlmsgerr))` -/
def NLMSGERR_LENGTH : Int := 36

/-- What `ldt_getinfo` does with one message. -/
def getinfoBody : Delivery → Option (Except Int Int)
  | .failed ret _ => some (.error ret)
  | .nlmsgError error _ =>
      if errorCmd error < NLMSGERR_LENGTH then some (.error RERR_SYSTEM)
      else some (.ok (-error))
  | .info ret => some (.ok ret)
  | .event _ => none

/-- `ldt_getinfo` with the return value of the command. -/
def ldtGetinfo : Reader Delivery (Except Int Int) :=
  Reader.until getinfoBody

/-- `ldt_nl_getret` -/
def ldtNlGetret (deliveries : List Delivery) : Int × List Delivery :=
  match ldtGetinfo.read deliveries with
  | none => (RERR_TIMEDOUT, [])
  | some (.error ret, rest) => (ret, rest)
  | some (.ok rval, rest) => (if rval ≠ 0 then RERR_SYSTEM else RERR_OK, rest)

structure RecvError where
  ret : Int
  timeLeft : Bool

/-- What `ldt_event_recv` does with one message. -/
def eventRecvBody : Delivery → Option (Except RecvError RecvEvent)
  | .failed ret timeLeft => some (.error ⟨ret, timeLeft⟩)
  | .nlmsgError _ timeLeft => some (.error ⟨RERR_SYSTEM, timeLeft⟩)
  | .info _ => none
  | .event event => some (.ok event)

/-- `ldt_event_recv` -/
def ldtEventRecv : Reader Delivery (Except RecvError RecvEvent) :=
  Reader.until eventRecvBody

end Tunprox.Netlink
