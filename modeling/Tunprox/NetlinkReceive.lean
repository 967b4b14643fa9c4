import Tunprox.CommandSession

/-!
# Receiving from a netlink socket

`fnl_recv2` does not know how long the next datagram is.  It looks at the datagram with
`MSG_PEEK` in a buffer that it doubles until the datagram fits, and only then takes it off the
queue.  Signals interrupt it and the time may run out in any turn of its loop, and datagrams
arrive all the time.
-/

namespace Tunprox.NetlinkReceive

open ByteBuffer NetlinkMessage NetlinkReply LabelledRun
open CommandSession (Socket Outside Order Handled serve replies readAnswer readAnswer_replies
  told_serve named_of_serve)
open CommandResult (Request)
open RequestEffect (Configured)
open Device (NetId)
open Netlink (RERR_SYSTEM RERR_TIMEDOUT)

def RERR_INVALID_LEN : Int := -54

def RERR_BUSY : Int := -84

def NLMSG_NOOP : Nat := 1

def NLMSG_DONE : Nat := 3

def NLMSG_OVERRUN : Nat := 4

/-- A datagram; `addressed` tells whether the address of its sender has the size of a
`struct sockaddr_nl`. -/
structure Datagram where
  bytes : List UInt8
  addressed : Bool
  deriving DecidableEq

/-- The socket: the datagrams in its queue, `sock->rcvseq`, and beside them all datagrams that
have arrived and those that `recvmsg` has taken off. -/
structure Sock where
  queue : List Datagram
  rcvseq : Int
  arrived : List Datagram
  taken : List Datagram
  deriving DecidableEq

def Sock.arrive (sock : Sock) (datagrams : List Datagram) : Sock :=
  { sock with queue := sock.queue ++ datagrams, arrived := sock.arrived ++ datagrams }

/-- `recvmsg` without `MSG_PEEK` takes the first datagram off. -/
def Sock.takeOff (sock : Sock) : Sock :=
  { sock with queue := sock.queue.tail, taken := sock.taken ++ sock.queue.take 1 }

/-- How a turn of the loop ends: the time has run out, `fd_isready` or `recvmsg` has failed, a
signal has come, or `recvmsg` returns, with `MSG_CTRUNC` or without. -/
inductive Event where
  | expired
  | notReady (ret : Int)
  | failed
  | interrupted
  | ready (ctrunc : Bool)
  deriving DecidableEq

/-- A turn of the loop, and what has arrived before `recvmsg` is called. -/
structure Turn where
  arrived : List Datagram
  event : Event
  deriving DecidableEq

/-- The flags `FNL_F_NOHDR` and `FNL_F_SEQCHK`. -/
structure Flags where
  nohdr : Bool
  seqchk : Bool

/-- `fnl_recv2` behind its loop, on the datagram that it has taken off. -/
def checkHeader (flags : Flags) (datagram : Datagram) (sock : Sock) :
    Except Int (List UInt8) × Sock :=
  if !datagram.addressed then (.error RERR_SERVER, sock)
  else if datagram.bytes.length < NLMSG_HDRLEN then (.error RERR_INVALID_LEN, sock)
  else if flags.nohdr then (.ok datagram.bytes, sock)
  else
    let field := fun offset width => ofLittleEndian ((datagram.bytes.drop offset).take width)
    if field 4 2 ∈ [NLMSG_NOOP, NLMSG_ERROR, NLMSG_DONE, NLMSG_OVERRUN] then
      (.error RERR_SERVER, sock)
    else
      -- a number from 2^31 on is never the expected one, which is an `int`
      let outOfOrder := (field 8 4 : Int) ≠ sock.rcvseq
      let next := if outOfOrder then toInt32 ((field 8 4 + 1) % 2 ^ 32) else sock.rcvseq + 1
      if outOfOrder ∧ flags.seqchk then (.error RERR_SERVER, { sock with rcvseq := next })
      else if field 0 4 ≠ datagram.bytes.length then
        (.error RERR_INVALID_LEN, { sock with rcvseq := next })
      else (.ok datagram.bytes, { sock with rcvseq := next })

/-- The loop of `fnl_recv2` with its buffer of `iovLen` bytes; `peek` tells whether `xflags` is
`MSG_PEEK`.  It gives nothing if the turns do not bring it to an end. -/
def recvLoop (flags : Flags) : List Turn → Nat → Bool → Sock →
    Option (Except Int (List UInt8) × Sock)
  | [], _, _, _ => none
  | turn :: turns, iovLen, peek, before =>
      let sock := before.arrive turn.arrived
      match turn.event with
      | .expired => some (.error RERR_TIMEDOUT, sock)
      | .notReady ret => some (.error ret, sock)
      | .failed => some (.error RERR_SYSTEM, sock)
      | .interrupted => recvLoop flags turns iovLen peek sock
      | .ready ctrunc =>
          match sock.queue with
          | [] => some (.error RERR_BUSY, sock)
          | first :: _ =>
              let read := if peek then sock else sock.takeOff
              if first.bytes = [] then some (.ok [], read)
              else if iovLen < first.bytes.length then
                recvLoop flags turns (iovLen * 2) peek read
              else if ctrunc then recvLoop flags turns iovLen peek read
              else if peek then recvLoop flags turns iovLen false read
              else some (checkHeader flags first read)

/-- `fnl_recv2` -/
def fnlRecv2 (flags : Flags) (turns : List Turn) (sock : Sock) :
    Option (Except Int (List UInt8) × Sock) :=
  recvLoop flags turns 4096 true sock

section Loop

variable {flags : Flags} {sock after : Sock} {result : Except Int (List UInt8)}

/-- A datagram of a sender with an address, and with room for a header. -/
def Acceptable (datagram : Datagram) : Prop :=
  datagram.addressed = true ∧ NLMSG_HDRLEN ≤ datagram.bytes.length

instance (datagram : Datagram) : Decidable (Acceptable datagram) :=
  inferInstanceAs (Decidable (_ ∧ _))

theorem Acceptable.ne_nil {datagram : Datagram} (acceptable : Acceptable datagram) :
    datagram.bytes ≠ [] := by
  intro empty
  have long := acceptable.2
  rw [empty] at long
  exact absurd long (by decide)

theorem checkHeader_of_acceptable (nohdr : flags.nohdr = true) {datagram : Datagram}
    (acceptable : Acceptable datagram) (sock : Sock) :
    checkHeader flags datagram sock = (.ok datagram.bytes, sock) := by
  have long := Nat.not_lt.mpr acceptable.2
  simp [checkHeader, acceptable.1, long, nohdr]

/-- The message that a call returns, if it returns one. -/
def message : Except Int (List UInt8) → Option (List UInt8)
  | .ok [] => none
  | .ok bytes => some bytes
  | .error _ => none

theorem message_ok {bytes : List UInt8} (nonempty : bytes ≠ []) :
    message (.ok bytes) = some bytes := by
  cases bytes with
  | nil => exact absurd rfl nonempty
  | cons byte bytes => rfl

/-- Between `before` and `after` nothing is lost, and `result` is the only datagram that was
taken off, if any was. -/
structure Received (before after : Sock) (result : Except Int (List UInt8)) : Prop where
  accounts : before.arrived = before.taken ++ before.queue →
    after.arrived = after.taken ++ after.queue
  acceptable : ∀ datagram ∈ after.queue, Acceptable datagram
  took : (after.taken = before.taken ∧ message result = none) ∨
    ∃ datagram, after.taken = before.taken ++ [datagram] ∧ message result = some datagram.bytes

/-- Datagrams that arrive are not taken off. -/
theorem Received.of_arrive (datagrams : List Datagram)
    (received : Received (sock.arrive datagrams) after result) : Received sock after result where
  accounts := by
    intro accounts
    apply received.accounts
    simp only [Sock.arrive, accounts, List.append_assoc]
  acceptable := received.acceptable
  took := received.took

theorem received_nothing (acceptable : ∀ datagram ∈ sock.queue, Acceptable datagram)
    (none : message result = none) : Received sock sock result where
  accounts := id
  acceptable := acceptable
  took := Or.inl ⟨rfl, none⟩

theorem received_takeOff {first : Datagram} {rest : List Datagram}
    (acceptable : ∀ datagram ∈ sock.queue, Acceptable datagram)
    (queued : sock.queue = first :: rest) :
    Received sock sock.takeOff (.ok first.bytes) where
  accounts := by
    intro accounts
    simp [Sock.takeOff, accounts, queued]
  acceptable := by
    intro datagram member
    apply acceptable
    exact List.mem_of_mem_tail member
  took := by
    right
    have valid := acceptable first (by simp [queued])
    exact ⟨first, by simp [Sock.takeOff, queued], message_ok valid.ne_nil⟩

/-- The credentials of the sender, for which there is room, are all that comes beside the data,
and acceptable datagrams arrive. -/
def Turn.Usual (turn : Turn) : Prop :=
  turn.event ≠ .ready true ∧ ∀ datagram ∈ turn.arrived, Acceptable datagram

instance (turn : Turn) : Decidable turn.Usual :=
  inferInstanceAs (Decidable (_ ∧ _))

/-- Without `MSG_PEEK` the buffer has room for the first datagram, which was looked at. -/
def Fits (iovLen : Nat) (peek : Bool) (sock : Sock) : Prop :=
  peek = false → ∃ first rest, sock.queue = first :: rest ∧ first.bytes.length ≤ iovLen

theorem Fits.arrive {iovLen : Nat} {peek : Bool} (fits : Fits iovLen peek sock)
    (datagrams : List Datagram) : Fits iovLen peek (sock.arrive datagrams) := by
  intro reads
  obtain ⟨first, rest, queued, short⟩ := fits reads
  exact ⟨first, rest ++ datagrams, by simp [Sock.arrive, queued], short⟩

theorem acceptable_arrive {datagrams : List Datagram}
    (queued : ∀ datagram ∈ sock.queue, Acceptable datagram)
    (arriving : ∀ datagram ∈ datagrams, Acceptable datagram) :
    ∀ datagram ∈ (sock.arrive datagrams).queue, Acceptable datagram := by
  intro datagram member
  rcases List.mem_append.mp member with older | newer
  · exact queued datagram older
  · exact arriving datagram newer

/-- The loop, by induction on its turns: the datagram that is taken off is the one that it has
looked at, as only the loop takes any off. -/
theorem received_of_recvLoop (nohdr : flags.nohdr = true) {turns : List Turn} {iovLen : Nat}
    {peek : Bool} (usual : ∀ turn ∈ turns, turn.Usual)
    (acceptable : ∀ datagram ∈ sock.queue, Acceptable datagram)
    (fits : Fits iovLen peek sock)
    (returned : recvLoop flags turns iovLen peek sock = some (result, after)) :
    Received sock after result := by
  induction turns generalizing iovLen peek sock with
  | nil => contradiction
  | cons turn turns ih =>
      have later : ∀ turn ∈ turns, turn.Usual :=
        fun turn member => usual turn (List.mem_cons_of_mem _ member)
      obtain ⟨whole, arriving⟩ := usual turn List.mem_cons_self
      apply Received.of_arrive turn.arrived
      have waiting := acceptable_arrive acceptable arriving
      have fitting := fits.arrive turn.arrived
      unfold recvLoop at returned
      simp only at returned
      generalize sock.arrive turn.arrived = sock at returned waiting fitting ⊢
      cases event : turn.event with
      | expired =>
          rw [event] at returned
          obtain ⟨rfl, rfl⟩ := Prod.mk.inj (Option.some.inj returned)
          exact received_nothing waiting rfl
      | notReady ret =>
          rw [event] at returned
          obtain ⟨rfl, rfl⟩ := Prod.mk.inj (Option.some.inj returned)
          exact received_nothing waiting rfl
      | failed =>
          rw [event] at returned
          obtain ⟨rfl, rfl⟩ := Prod.mk.inj (Option.some.inj returned)
          exact received_nothing waiting rfl
      | interrupted =>
          rw [event] at returned
          exact ih later waiting fitting returned
      | ready ctrunc =>
          obtain rfl : ctrunc = false := by
            cases ctrunc with
            | true => exact absurd event whole
            | false => rfl
          rw [event] at returned
          cases queued : sock.queue with
          | nil =>
              simp only [queued] at returned
              obtain ⟨rfl, rfl⟩ := Prod.mk.inj (Option.some.inj returned)
              exact received_nothing waiting rfl
          | cons first rest =>
              have valid := waiting first (by simp [queued])
              simp only [queued, if_neg valid.ne_nil, Bool.false_eq_true, if_false] at returned
              cases peek with
              | true =>
                  simp only [if_true] at returned
                  split at returned
                  · exact ih later waiting (by simp [Fits]) returned
                  · rename_i short
                    apply ih later waiting _ returned
                    intro _
                    exact ⟨first, rest, queued, Nat.not_lt.mp short⟩
              | false =>
                  obtain ⟨head, tail, looked, short⟩ := fitting rfl
                  obtain ⟨rfl, rfl⟩ := List.cons.inj (queued.symm.trans looked)
                  simp only [if_neg (Nat.not_lt.mpr short), Bool.false_eq_true, if_false,
                    checkHeader_of_acceptable nohdr valid] at returned
                  obtain ⟨rfl, rfl⟩ := Prod.mk.inj (Option.some.inj returned)
                  exact received_takeOff waiting queued

/-- A signal comes, or there is a datagram. -/
def Turn.Undisturbed (turn : Turn) : Prop :=
  turn.event = .interrupted ∨ turn.event = .ready false

instance (turn : Turn) : Decidable turn.Undisturbed :=
  inferInstanceAs (Decidable (_ ∨ _))

/-- How often `recvmsg` returns a datagram. -/
def readyTurns (turns : List Turn) : Nat :=
  turns.countP fun turn => turn.event = .ready false

/-- The loop ends with the first datagram, by induction on its turns: each datagram that it
gets doubles the buffer, or is the last or the last but one. -/
theorem recvLoop_of_readyTurns (nohdr : flags.nohdr = true) {turns : List Turn}
    {iovLen doublings : Nat} {peek : Bool} {first : Datagram} {rest : List Datagram}
    (undisturbed : ∀ turn ∈ turns, turn.Undisturbed) (acceptable : Acceptable first)
    (queued : sock.queue = first :: rest)
    (short : first.bytes.length ≤ iovLen * 2 ^ doublings)
    (enough : doublings + 2 ≤ readyTurns turns + if peek then 0 else 1)
    (fits : Fits iovLen peek sock) :
    ∃ after later, recvLoop flags turns iovLen peek sock = some (.ok first.bytes, after) ∧
      after.queue = rest ++ later := by
  induction turns generalizing iovLen doublings peek sock rest with
  | nil =>
      simp only [readyTurns, List.countP_nil] at enough
      split at enough
      · omega
      · omega
  | cons turn turns ih =>
      have later : ∀ turn ∈ turns, turn.Undisturbed :=
        fun turn member => undisturbed turn (List.mem_cons_of_mem _ member)
      have waiting : (sock.arrive turn.arrived).queue = first :: (rest ++ turn.arrived) := by
        simp [Sock.arrive, queued]
      have fitting := fits.arrive turn.arrived
      -- what arrives in the later turns comes behind what has arrived in this one
      have further (iovLen doublings : Nat) (peek : Bool)
          (short : first.bytes.length ≤ iovLen * 2 ^ doublings)
          (enough : doublings + 2 ≤ readyTurns turns + if peek then 0 else 1)
          (fits : Fits iovLen peek (sock.arrive turn.arrived)) :
          ∃ after later,
            recvLoop flags turns iovLen peek (sock.arrive turn.arrived) =
                some (.ok first.bytes, after) ∧
              after.queue = rest ++ later := by
        obtain ⟨after, behind, returned, left⟩ := ih later waiting short enough fits
        exact ⟨after, turn.arrived ++ behind, returned, by rw [left, List.append_assoc]⟩
      rcases undisturbed turn List.mem_cons_self with event | event
      · have same : readyTurns (turn :: turns) = readyTurns turns := by
          simp [readyTurns, event]
        rw [same] at enough
        simp only [recvLoop, event]
        exact further iovLen doublings peek short enough fitting
      · have fewer : readyTurns (turn :: turns) = readyTurns turns + 1 := by
          simp [readyTurns, event]
        rw [fewer] at enough
        simp only [recvLoop, event, waiting, if_neg acceptable.ne_nil, Bool.false_eq_true,
          if_false]
        cases peek with
        | true =>
            simp only [if_true] at enough ⊢
            split
            · rename_i long
              -- a buffer that is too small can still be doubled
              cases doublings with
              | zero => omega
              | succ doublings =>
                  apply further (iovLen * 2) doublings true
                  · rw [Nat.mul_assoc, ← Nat.pow_succ']
                    exact short
                  · simp only [if_true]
                    omega
                  · simp [Fits]
            · rename_i room
              have fitted := Nat.not_lt.mp room
              apply further iovLen 0 false
              · omega
              · simp only [Bool.false_eq_true, if_false]
                omega
              · intro _
                exact ⟨first, _, waiting, fitted⟩
        | false =>
            obtain ⟨head, tail, looked, room⟩ := fitting rfl
            obtain ⟨rfl, rfl⟩ := List.cons.inj (waiting.symm.trans looked)
            simp only [if_neg (Nat.not_lt.mpr room), Bool.false_eq_true, if_false,
              checkHeader_of_acceptable nohdr acceptable]
            refine ⟨_, turn.arrived, rfl, ?_⟩
            simp [Sock.takeOff, waiting]

end Loop

/-- A reader with its socket, and what its calls have returned. -/
structure Reader where
  sock : Sock
  results : List (Except Int (List UInt8))
  deriving DecidableEq

/-- Datagrams arrive between two calls, or `fnl_recv2` is called. -/
inductive Label where
  | arrive (datagrams : List Datagram)
  | recv (turns : List Turn)

def step (flags : Flags) (reader : Reader) : Label → Option Reader
  | .arrive datagrams => some { reader with sock := reader.sock.arrive datagrams }
  | .recv turns =>
      (fnlRecv2 flags turns reader.sock).map fun returned =>
        { sock := returned.2, results := reader.results ++ [returned.1] }

def start : Reader where
  sock := { queue := [], rcvseq := 0, arrived := [], taken := [] }
  results := []

/-- Acceptable datagrams arrive, and no control data is lost. -/
def Allowed (_ : Reader) : Label → Prop
  | .arrive datagrams => ∀ datagram ∈ datagrams, Acceptable datagram
  | .recv turns => ∀ turn ∈ turns, turn.Usual

instance (reader : Reader) : ∀ label, Decidable (Allowed reader label)
  | .arrive datagrams =>
      inferInstanceAs (Decidable (∀ datagram ∈ datagrams, Acceptable datagram))
  | .recv turns => inferInstanceAs (Decidable (∀ turn ∈ turns, turn.Usual))

section Run

variable {flags : Flags} {reader next : Reader}

/-- What has arrived was taken off or is in the queue, and what was taken off was returned. -/
structure Accounted (reader : Reader) : Prop where
  arrived : reader.sock.arrived = reader.sock.taken ++ reader.sock.queue
  returned : reader.results.filterMap message =
    reader.sock.taken.map fun datagram => datagram.bytes
  acceptable : ∀ datagram ∈ reader.sock.queue, Acceptable datagram

theorem accounted_start : Accounted start where
  arrived := rfl
  returned := rfl
  acceptable := by simp [start]

/-- The step lemma. -/
theorem accounted_of_step (nohdr : flags.nohdr = true) {label : Label}
    (allowed : Allowed reader label) (accounted : Accounted reader)
    (stepped : step flags reader label = some next) : Accounted next := by
  cases label with
  | arrive datagrams =>
      obtain rfl := Option.some.inj stepped
      constructor
      · simp only [Sock.arrive, accounted.arrived, List.append_assoc]
      · exact accounted.returned
      · exact acceptable_arrive accounted.acceptable allowed
  | recv turns =>
      obtain ⟨⟨result, after⟩, returned, rfl⟩ := Option.map_eq_some_iff.mp stepped
      have received := received_of_recvLoop nohdr allowed accounted.acceptable
        (by simp [Fits]) returned
      constructor
      · exact received.accounts accounted.arrived
      · simp only [List.filterMap_append, accounted.returned]
        rcases received.took with ⟨same, none⟩ | ⟨datagram, taken, returns⟩
        · simp [same, none]
        · simp [taken, returns]
      · exact received.acceptable

/-- In every run, the messages that the calls have returned, followed by those in the queue,
are all that have arrived, in their order and each of them once. -/
theorem returned_of_run {seqchk : Bool} {labels : List Label} {final : Reader}
    (allowed : Guarded (step ⟨true, seqchk⟩) Allowed start labels)
    (ran : run (step ⟨true, seqchk⟩) start labels = some final) :
    final.results.filterMap message ++ final.sock.queue.map (fun datagram => datagram.bytes) =
      final.sock.arrived.map fun datagram => datagram.bytes := by
  have accounted : Accounted final :=
    invariant_of_guarded (accounted_of_step rfl) allowed accounted_start ran
  rw [accounted.returned, accounted.arrived, List.map_append]

def shortDatagram : Datagram where
  bytes := List.replicate 16 1
  addressed := true

/-- It does not fit in the buffer that the loop starts with. -/
def longDatagram : Datagram where
  bytes := List.replicate 4100 2
  addressed := true

def looked : Turn where
  arrived := []
  event := .ready false

/-- A signal comes while nothing is there, the time runs out when the long datagram has been
looked at, and then both are read. -/
def readTwo : List Label :=
  [.recv
      [⟨[], .interrupted⟩, ⟨[longDatagram], .ready false⟩, ⟨[shortDatagram], .expired⟩],
    .recv [looked, looked, looked], .recv [⟨[shortDatagram], .ready false⟩, looked]]

theorem returned_readTwo :
    ∃ final, run (step ⟨true, false⟩) start readTwo = some final ∧
      final.results.filterMap message ++
          final.sock.queue.map (fun datagram => datagram.bytes) =
        final.sock.arrived.map fun datagram => datagram.bytes := by
  have ends : (run (step ⟨true, false⟩) start readTwo).isSome = true := by decide +kernel
  obtain ⟨final, ran⟩ := Option.isSome_iff_exists.mp ends
  exact ⟨final, ran, returned_of_run (by decide +kernel) ran⟩

/-- Nothing but signals disturbs a call, and `recvmsg` returns a datagram for each time that the
buffer has to be doubled, to look at it and to take it off. -/
def Patient (doublings : Nat) (turns : List Turn) : Prop :=
  (∀ turn ∈ turns, turn.Undisturbed) ∧ doublings + 2 ≤ readyTurns turns

instance (doublings : Nat) (turns : List Turn) : Decidable (Patient doublings turns) :=
  inferInstanceAs (Decidable (_ ∧ _))

theorem fnlRecv2_of_patient (seqchk : Bool) {doublings : Nat} {turns : List Turn} {sock : Sock}
    {first : Datagram} {rest : List Datagram} (patient : Patient doublings turns)
    (acceptable : Acceptable first) (short : first.bytes.length ≤ 4096 * 2 ^ doublings)
    (queued : sock.queue = first :: rest) :
    ∃ after later, fnlRecv2 ⟨true, seqchk⟩ turns sock = some (.ok first.bytes, after) ∧
      after.queue = rest ++ later := by
  have fits : Fits 4096 true sock := by simp [Fits]
  exact recvLoop_of_readyTurns rfl patient.1 acceptable queued short patient.2 fits

/-- Datagrams of any length are read one by one, whatever arrives and whichever signals come in
between: each call returns the next one. -/
theorem results_of_patient (reader : Reader) (seqchk : Bool) {doublings : Nat}
    {calls : List (List Turn)} {waiting rest : List Datagram}
    (patient : ∀ turns ∈ calls, Patient doublings turns)
    (acceptable : ∀ datagram ∈ waiting, Acceptable datagram)
    (short : ∀ datagram ∈ waiting, datagram.bytes.length ≤ 4096 * 2 ^ doublings)
    (queued : reader.sock.queue = waiting ++ rest) (same : waiting.length = calls.length) :
    ∃ final later, run (step ⟨true, seqchk⟩) reader (calls.map Label.recv) = some final ∧
      final.results = reader.results ++ waiting.map (fun datagram => .ok datagram.bytes) ∧
      final.sock.queue = rest ++ later := by
  induction calls generalizing reader waiting rest with
  | nil =>
      obtain rfl := List.length_eq_zero_iff.mp same
      exact ⟨reader, [], rfl, by simp, by simp [queued]⟩
  | cons turns calls ih =>
      cases waiting with
      | nil => contradiction
      | cons first waiting =>
          obtain ⟨after, arrived, returned, left⟩ :=
            fnlRecv2_of_patient seqchk (patient turns List.mem_cons_self)
              (acceptable first List.mem_cons_self) (short first List.mem_cons_self) queued
          have remaining : after.queue = waiting ++ (rest ++ arrived) := by
            rw [left]
            exact List.append_assoc ..
          obtain ⟨final, later, ran, results, behind⟩ :=
            ih ⟨after, reader.results ++ [.ok first.bytes]⟩
              (fun turns member => patient turns (List.mem_cons_of_mem _ member))
              (fun datagram member => acceptable datagram (List.mem_cons_of_mem _ member))
              (fun datagram member => short datagram (List.mem_cons_of_mem _ member))
              remaining (Nat.succ.inj same)
          refine ⟨final, arrived ++ later, ?_, ?_, ?_⟩
          · apply run_cons_eq_some_iff.mpr
            exact ⟨_, by simp only [step, returned, Option.map_some], ran⟩
          · rw [results, List.append_assoc]
            rfl
          · rw [behind, List.append_assoc]

theorem results_longFirst :
    ∃ final later, run (step ⟨true, false⟩)
          ⟨⟨[longDatagram, shortDatagram], 0, [], []⟩, []⟩
          ([[looked, looked, looked], [looked, looked, looked]].map Label.recv) = some final ∧
      final.results = [.ok longDatagram.bytes, .ok shortDatagram.bytes] ∧
      final.sock.queue = [] ++ later :=
  results_of_patient _ false
    (show ∀ turns ∈ [[looked, looked, looked], [looked, looked, looked]], Patient 1 turns
      by decide)
    (show ∀ datagram ∈ [longDatagram, shortDatagram], Acceptable datagram by decide +kernel)
    (by decide +kernel) rfl rfl

/-- A function of the tool whose command was handled returns what the handler has done when its
answer is the next datagram, whatever comes behind it. -/
theorem readAnswer_of_patient {seqchk : Bool} {doublings : Nat} {turns : List Turn}
    {socket : Socket} {seq : Nat} {kernel : Configured} {net : NetId} {outside : Outside}
    {order : Order} {handled : Handled} {request : Request} {answer : Datagram}
    {rest : List Datagram}
    (served : serve kernel net outside order.command.meaning = some handled)
    (answered : replies socket seq request outside.skb handled.ret handled.name =
      [.ok answer.bytes])
    (patient : Patient doublings turns) (acceptable : Acceptable answer)
    (short : answer.bytes.length ≤ 4096 * 2 ^ doublings)
    (queued : reader.sock.queue = answer :: rest) (idle : reader.results = []) :
    ∃ final, run (step ⟨true, seqchk⟩) reader [.recv turns] = some final ∧
      readAnswer order.asks final.results outside.rval =
        some (handled.outcome order.asks outside.skb) := by
  obtain ⟨after, arrived, returned, left⟩ :=
    fnlRecv2_of_patient seqchk patient acceptable short queued
  refine ⟨⟨after, reader.results ++ [.ok answer.bytes]⟩, ?_, ?_⟩
  · apply run_cons_eq_some_iff.mpr
    exact ⟨_, by simp only [step, returned, Option.map_some], rfl⟩
  rw [idle, List.nil_append, ← answered]
  exact readAnswer_replies _ _ _ _ _ (told_serve served) (named_of_serve served)

end Run

end Tunprox.NetlinkReceive
