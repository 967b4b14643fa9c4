import Tunprox.ConnectionSocket
import Tunprox.Transmit

/-!
# The minute after a connection was lost

`mpdccptun_check_enqueue` accepts packets of a tunnel that was connected for a minute
after `last_unconnect`.  Only `mpdccptun_linkdown` sets this time stamp, and it does so
whether the tunnel was connected or not; `mpdccptun_closesk` and
`mpdccptun_close_listen` end a connection without it.  The comparison with `jiffies` is
one of unsigned numbers and not of their difference.

The runs are those of the tunnel with the tick of each step, and with the tick of the
most recent loss of the connection.
-/

namespace Tunprox.GracePeriod

open Errno Queue Connection ConnectionClose ConnectionBind ConnectionOutcome ConnectionStep
open ConnectionOwned ConnectionSocket LabelledRun

/-- The tunnel, and the tick at which it lost its connection last. -/
structure TimedState where
  conn : ConnState
  lostAt : Option Nat

/-- A step and the value of `jiffies` at which it is taken. -/
structure TimedLabel where
  now : Nat
  label : Label

/-- The value of `jiffies` that the step reads. -/
def jiffiesOf : Label → Option Nat
  | .connectHandler _ _ jiffies => some jiffies
  | .allSubflowDown _ jiffies => some jiffies
  | .connTimer jiffies => some jiffies
  | _ => none

/-- The label is a possible one at its tick of the counter, which is 64 bits wide. -/
def Timed (timed : TimedLabel) : Prop :=
  timed.now < 2 ^ 64 ∧ (jiffiesOf timed.label).all (· == timed.now) = true

instance (timed : TimedLabel) : Decidable (Timed timed) :=
  inferInstanceAs (Decidable (_ ∧ _))

/-- The transition function of the tunnel with the tick of the last loss. -/
def timedStep (hz : Nat) (state : TimedState) (timed : TimedLabel) : Option TimedState :=
  if Timed timed then
    (step hz state.conn timed.label).map fun next =>
      { conn := next
        lostAt :=
          if state.conn.tdat.isconnected && !next.tdat.isconnected then some timed.now
          else state.lostAt }
  else none

def timedInitial (ipv6 ismpdccp : Bool) : TimedState where
  conn := initial ipv6 ismpdccp
  lostAt := none

/-- The ticks from `lost` to `jiffies` on the wrapping counter. -/
def elapsed (lost jiffies : Nat) : Nat :=
  (jiffies + 2 ^ 64 - lost) % 2 ^ 64

/-- There is room in the queue of a tunnel that is not connected. -/
def HasRoom (queue : TpQueue SkBuff) : Prop :=
  tpqIsfull queue = false ∧ ¬ (queue.policy = TP_QUEUE_INF ∧ 10000 ≤ queue.queue.length)

instance (queue : TpQueue SkBuff) : Decidable (HasRoom queue) :=
  inferInstanceAs (Decidable (_ ∧ _))

/-- A tunnel that lost its connection at the tick `lost` accepts a packet at the tick
`jiffies` if and only if at most a minute has passed. -/
def GracedAt (hz : Nat) (tdat : Mpdccptun) (skb : SkBuff) (lost jiffies : Nat) : Prop :=
  Transmit.mpdccptunCheckEnqueue hz tdat skb jiffies = 0 ↔ elapsed lost jiffies ≤ 60 * hz

/-- The step ends a connection by a link-down only, and no link-down reaches a client
that has lost its connection before.  A rebind ends the connection even where the same
worker connects again: `isconnected` is 0 from `mpdccptun_closesk` until
`kernel_connect` returns. -/
def KeepsStamp (state : TimedState) : Label → Prop
  | .connectHandler .. =>
      state.conn.tdat.isconnected = true → ¬ Rebinds state.conn.tdat
  | .listenHandler .. =>
      state.conn.tdat.isconnected = true → state.conn.tdat.isserver = true →
        ¬ Rebinds state.conn.tdat ∧
          (state.conn.tdat.listening = true → PortRefused state.conn.tdat)
  | .allSubflowDown metaSock _ =>
      (state.conn.sockets metaSock).userData = true → state.conn.tdat.listening = false →
        state.lostAt.isSome = true → state.conn.tdat.isconnected = true
  | .connTimer _ =>
      state.conn.tdat.ismpdccp = true → state.conn.tdat.numSubflow = 0 →
        state.conn.tdat.listening = false → state.lostAt.isSome = true →
          state.conn.tdat.isconnected = true
  | _ => True

instance (state : TimedState) : (label : Label) → Decidable (KeepsStamp state label)
  | .connectHandler .. =>
      inferInstanceAs (Decidable (state.conn.tdat.isconnected = true →
        ¬ Rebinds state.conn.tdat))
  | .listenHandler .. =>
      inferInstanceAs (Decidable (state.conn.tdat.isconnected = true →
        state.conn.tdat.isserver = true → ¬ Rebinds state.conn.tdat ∧
          (state.conn.tdat.listening = true → PortRefused state.conn.tdat)))
  | .allSubflowDown metaSock _ =>
      inferInstanceAs (Decidable ((state.conn.sockets metaSock).userData = true →
        state.conn.tdat.listening = false → state.lostAt.isSome = true →
          state.conn.tdat.isconnected = true))
  | .connTimer _ =>
      inferInstanceAs (Decidable (state.conn.tdat.ismpdccp = true →
        state.conn.tdat.numSubflow = 0 → state.conn.tdat.listening = false →
          state.lostAt.isSome = true → state.conn.tdat.isconnected = true))
  | .bind .. | .peer _ | .serverstart | .setqueue .. | .acceptHandler _ | .tpListenReady _
  | .subflowCreate .. | .subflowDestroy .. =>
      inferInstanceAs (Decidable True)

/-- The comparison of unsigned ticks is right if the limit and the packet are on the same
side of the wrap of the counter. -/
theorem le_limit_iff_elapsed {lost jiffies grace : Nat} (lostBound : lost < 2 ^ 64)
    (jiffiesBound : jiffies < 2 ^ 64) (graceBound : grace < 2 ^ 64) :
    (jiffies ≤ (lost + grace) % 2 ^ 64 ↔ elapsed lost jiffies ≤ grace) ↔
      (lost + grace < 2 ^ 64 ↔ lost ≤ jiffies) := by
  unfold elapsed
  rcases Nat.lt_or_ge (lost + grace) (2 ^ 64) with unwrapped | wrapped
  · rw [Nat.mod_eq_of_lt unwrapped]
    omega
  · have limit : (lost + grace) % 2 ^ 64 = lost + grace - 2 ^ 64 := by omega
    rw [limit]
    omega

/-- What a step does to the connection and its time stamp if it keeps the stamp. -/
inductive Stamps (state : TimedState) (now : Nat) (next : ConnState) : Prop where
  | kept (isconnected : next.tdat.isconnected = state.conn.tdat.isconnected)
      (wasconnected : next.tdat.wasconnected = state.conn.tdat.wasconnected)
      (lastUnconnect : next.tdat.lastUnconnect = state.conn.tdat.lastUnconnect)
  | connected (isconnected : next.tdat.isconnected = true)
      (wasconnected : next.tdat.wasconnected = true)
  | down (isconnected : next.tdat.isconnected = false)
      (wasconnected : next.tdat.wasconnected = state.conn.tdat.wasconnected)
      (lastUnconnect : next.tdat.lastUnconnect = now)
      (first : state.lostAt.isSome = true → state.conn.tdat.isconnected = true)

/-- What `mpdccptun_dobind` does to the flag `isconnected`. -/
theorem isconnected_of_dobind {state bound : ConnState} {calls : BindCalls} {ret : Int}
    (binds : Dobind state calls (ret, bound)) :
    bound.tdat.isconnected = state.tdat.isconnected ∨
      (Rebinds state.tdat ∧ bound.tdat.isconnected = false) := by
  have opened {base : ConnState} (opens : Opens state base) :
      base.tdat.isconnected = state.tdat.isconnected ∨
        (Rebinds state.tdat ∧ base.tdat.isconnected = false) := by
    cases opens with
    | unbound => exact Or.inl rfl
    | rebinds rebinds =>
        rw [mpdccptunClosesk_eq]
        exact Or.inr ⟨rebinds, rfl⟩
  cases binds with
  | stopped | refused | kept => exact Or.inl rfl
  | failed opens _ failed _ =>
      have unbound := opened opens
      cases failed with
      | refused | closed => exact unbound
  | bound opens _ =>
      have unbound := opened opens
      exact unbound

/-- A bind that does not close the socket of a connected tunnel keeps the connection. -/
theorem isconnected_eq_of_dobind {state bound : ConnState} {calls : BindCalls} {ret : Int}
    (binds : Dobind state calls (ret, bound))
    (keeps : state.tdat.isconnected = true → ¬ Rebinds state.tdat) :
    bound.tdat.isconnected = state.tdat.isconnected := by
  rcases isconnected_of_dobind binds with same | ⟨rebinds, unconnected⟩
  · exact same
  · cases connected : state.tdat.isconnected with
    | false => exact unconnected
    | true => exact absurd rebinds (keeps connected)

theorem stamps_of_connects {hz : Nat} {state : TimedState} {next : ConnState}
    {calls : BindCalls} {kernelConnect : Int} {now jiffies : Nat}
    (connects : Connects hz { state.conn with connQueued := false, connTimer := none } calls
      kernelConnect jiffies next)
    (keeps : KeepsStamp state (.connectHandler calls kernelConnect jiffies)) :
    Stamps state now next := by
  cases connects with
  | unbound binds _ =>
      have same := isconnected_eq_of_dobind binds keeps
      exact .kept same binds.frame.wasconnected binds.frame.lastUnconnect
  | unpeered binds _ =>
      have same := isconnected_eq_of_dobind binds keeps
      exact .kept same binds.frame.wasconnected binds.frame.lastUnconnect
  | faulted binds _ =>
      have same := isconnected_eq_of_dobind binds keeps
      exact .kept same binds.frame.wasconnected binds.frame.lastUnconnect
  | refused binds _ _ _ =>
      have same := isconnected_eq_of_dobind binds keeps
      exact .kept same binds.frame.wasconnected binds.frame.lastUnconnect
  | connected => exact .connected rfl rfl

theorem stamps_of_listens {state : TimedState} {next : ConnState} {calls : BindCalls}
    {kernelListen : Int} {now : Nat}
    (listens : Listens { state.conn with listenQueued := false } calls kernelListen next)
    (owned : Owned state.conn)
    (keeps : KeepsStamp state (.listenHandler calls kernelListen)) :
    Stamps state now next := by
  have notRebinds (server : state.conn.tdat.isserver = true)
      (connected : state.conn.tdat.isconnected = true) : ¬ Rebinds state.conn.tdat :=
    (keeps connected server).1
  cases listens with
  | client => exact .kept rfl rfl rfl
  | unbound server binds _ =>
      have same := isconnected_eq_of_dobind binds (notRebinds server)
      exact .kept same binds.frame.wasconnected binds.frame.lastUnconnect
  | absent server binds _ =>
      have same := isconnected_eq_of_dobind binds (notRebinds server)
      exact .kept same binds.frame.wasconnected binds.frame.lastUnconnect
  | listened server binds _ _ =>
      have same := isconnected_eq_of_dobind binds (notRebinds server)
      exact .kept same binds.frame.wasconnected binds.frame.lastUnconnect
  | again server binds _ listening =>
      have unconnected : state.conn.tdat.isconnected = false := by
        by_contra connected
        obtain ⟨notRebinds, port⟩ := keeps (by simpa using connected) server
        have started : Owned { state.conn with listenQueued := false } :=
          owned.requeued _ _ _ _
        obtain ⟨rfl, notRefused⟩ := kept_of_listening binds started listening
        exact notRefused (port listening)
      exact .kept unconnected.symm binds.frame.wasconnected binds.frame.lastUnconnect

theorem stamps_of_goesDown {state : TimedState} {conn next : ConnState} {now : Nat}
    (goesDown : GoesDown conn now next)
    (isconnected : conn.tdat.isconnected = state.conn.tdat.isconnected)
    (wasconnected : conn.tdat.wasconnected = state.conn.tdat.wasconnected)
    (lastUnconnect : conn.tdat.lastUnconnect = state.conn.tdat.lastUnconnect)
    (first : conn.tdat.listening = false → state.lostAt.isSome = true →
      state.conn.tdat.isconnected = true) : Stamps state now next := by
  cases goesDown with
  | server => exact .kept isconnected wasconnected lastUnconnect
  | client client => exact .down rfl wasconnected rfl (first client)

theorem stamps_of_stepped {hz : Nat} {state : TimedState} {next : ConnState}
    {label : Label} {now : Nat} (owned : Owned state.conn)
    (timed : (jiffiesOf label).all (· == now) = true) (keeps : KeepsStamp state label)
    (stepped : Stepped hz state.conn label next) : Stamps state now next := by
  cases stepped with
  | bindIgnored | peerIgnored | serverstartIgnored | allSubflowDownIgnored | bind | peer
  | serverstart | setqueue | listenReady | connTimerIgnored | subflowCreate
  | subflowDestroy => exact .kept rfl rfl rfl
  | connect _ connects => exact stamps_of_connects connects keeps
  | listen _ listens => exact stamps_of_listens listens owned keeps
  | accept _ accepts =>
      cases accepts with
      | faulted | refused => exact .kept rfl rfl rfl
      | accepted => exact .connected rfl rfl
  | allSubflowDown _ _ heard goesDown =>
      obtain rfl : _ = now := by simpa [jiffiesOf] using timed
      exact stamps_of_goesDown goesDown rfl rfl rfl (keeps heard)
  | connTimer _ ismpdccp empty goesDown =>
      obtain rfl : _ = now := by simpa [jiffiesOf] using timed
      exact stamps_of_goesDown goesDown rfl rfl rfl (keeps ismpdccp empty)

/-- The invariant: a tunnel that lost its connection was connected, and as long as it is not
connected again, the time stamp is the tick of the loss. -/
structure Stamped (state : TimedState) : Prop where
  owned : Owned state.conn
  bounded : ∀ lost, state.lostAt = some lost → lost < 2 ^ 64
  wasconnected : state.conn.tdat.isconnected = true ∨ state.lostAt.isSome = true →
    state.conn.tdat.wasconnected = true
  stamp : state.conn.tdat.isconnected = false → ∀ lost, state.lostAt = some lost →
    state.conn.tdat.lastUnconnect = lost

theorem stamped_of_stamps {state : TimedState} {next : ConnState} {now : Nat}
    (stamps : Stamps state now next) (nowBound : now < 2 ^ 64) (owned : Owned next)
    (stamped : Stamped state) :
    Stamped
      { conn := next
        lostAt :=
          if state.conn.tdat.isconnected && !next.tdat.isconnected then some now
          else state.lostAt } := by
  cases stamps with
  | kept isconnected wasconnected lastUnconnect =>
      have sameLost : (state.conn.tdat.isconnected && !next.tdat.isconnected) = false := by
        simp [isconnected]
      rw [if_neg (by simp [sameLost])]
      refine ⟨owned, stamped.bounded, ?_, ?_⟩
      · rw [isconnected, wasconnected]
        exact stamped.wasconnected
      · rw [isconnected, lastUnconnect]
        exact stamped.stamp
  | connected isconnected wasconnected =>
      rw [if_neg (by simp [isconnected])]
      exact ⟨owned, stamped.bounded, fun _ => wasconnected, by simp [isconnected]⟩
  | down unconnected wasconnected lastUnconnect first =>
      by_cases was : state.conn.tdat.isconnected = true
      · rw [if_pos (by simp [was, unconnected])]
        refine ⟨owned, ?_, ?_, ?_⟩
        · rintro lost lostEq
          obtain rfl := Option.some.inj lostEq
          exact nowBound
        · exact fun _ => wasconnected.trans (stamped.wasconnected (Or.inl was))
        · rintro _ lost lostEq
          obtain rfl := Option.some.inj lostEq
          exact lastUnconnect
      · have never : state.lostAt = none := by
          by_contra lost
          exact was (first (Option.isSome_iff_ne_none.mpr lost))
        rw [if_neg (by simp [was])]
        exact ⟨owned, stamped.bounded, by simp [unconnected, never], by simp [never]⟩

theorem stamped_of_timedStep {hz : Nat} {state next : TimedState} {timed : TimedLabel}
    (keeps : KeepsStamp state timed.label) (stamped : Stamped state)
    (stepped : timedStep hz state timed = some next) : Stamped next := by
  unfold timedStep at stepped
  split at stepped
  · rename_i isTimed
    obtain ⟨conn, connStepped, rfl⟩ := Option.map_eq_some_iff.mp stepped
    have outcome := stamped.owned.stepped connStepped
    have stamps := stamps_of_stepped stamped.owned isTimed.2 keeps outcome
    exact stamped_of_stamps stamps isTimed.1 (owned_of_step stamped.owned connStepped) stamped
  · contradiction

theorem stamped_initial (ipv6 ismpdccp : Bool) : Stamped (timedInitial ipv6 ismpdccp) :=
  ⟨owned_initial ipv6 ismpdccp, by simp [timedInitial],
    by simp [timedInitial, initial, mpdccptunNew], by simp [timedInitial]⟩

/-- A packet that may wait is accepted up to a limit on the value of `jiffies`. -/
theorem checkEnqueue_eq_zero_iff {hz : Nat} {tdat : Mpdccptun} {skb : SkBuff}
    {jiffies : Nat} (wasconnected : tdat.wasconnected = true)
    (unconnected : tdat.isconnected = false) (notProt1 : tpIsprot1 (skb.byte 0) = false)
    (room : HasRoom tdat.xmitQueue) :
    Transmit.mpdccptunCheckEnqueue hz tdat skb jiffies = 0 ↔
      jiffies ≤ (tdat.lastUnconnect + 60 * hz) % 2 ^ 64 := by
  have refused : -ENOTCONN ≠ 0 := by decide
  unfold Transmit.mpdccptunCheckEnqueue
  simp only [wasconnected, unconnected, notProt1, room.1, Bool.not_true, Bool.not_false,
    Bool.false_eq_true, if_false, true_and, and_false, if_neg room.2]
  by_cases late : jiffies > (tdat.lastUnconnect + 60 * hz) % 2 ^ 64
  · rw [if_pos late]
    exact ⟨fun accepted => absurd accepted refused, fun soon => absurd late (by omega)⟩
  · rw [if_neg late]
    exact ⟨fun _ => by omega, fun _ => rfl⟩

/-- In every run whose losses of the connection keep the time stamp, a tunnel that is not
connected accepts packets for exactly a minute if and only if the end of the minute and
the packet are on the same side of the wrap of the counter. -/
theorem gracedAt_iff_same_side (hz : Nat) (small : 60 * hz < 2 ^ 64) (ipv6 ismpdccp : Bool)
    (labels : List TimedLabel) (state : TimedState)
    (keeps : Guarded (timedStep hz) (fun state timed => KeepsStamp state timed.label)
      (timedInitial ipv6 ismpdccp) labels)
    (ran : run (timedStep hz) (timedInitial ipv6 ismpdccp) labels = some state)
    (queue : TpQueue SkBuff) (skb : SkBuff) (lost jiffies : Nat)
    (jiffiesBound : jiffies < 2 ^ 64) (unconnected : state.conn.tdat.isconnected = false)
    (lostEq : state.lostAt = some lost) (notProt1 : tpIsprot1 (skb.byte 0) = false)
    (room : HasRoom queue) :
    GracedAt hz { state.conn.tdat with xmitQueue := queue } skb lost jiffies ↔
      (lost + 60 * hz < 2 ^ 64 ↔ lost ≤ jiffies) := by
  have stamped : Stamped state :=
    invariant_of_guarded
      (fun keeps stamped stepped => stamped_of_timedStep keeps stamped stepped)
      keeps (stamped_initial ipv6 ismpdccp) ran
  have wasconnected := stamped.wasconnected (Or.inr (by simp [lostEq]))
  have stamp := stamped.stamp unconnected lost lostEq
  have accepts : Transmit.mpdccptunCheckEnqueue hz
      { state.conn.tdat with xmitQueue := queue } skb jiffies = 0 ↔
        jiffies ≤ (lost + 60 * hz) % 2 ^ 64 := by
    rw [← stamp]
    exact checkEnqueue_eq_zero_iff wasconnected unconnected notProt1 room
  unfold GracedAt
  rw [accepts]
  exact le_limit_iff_elapsed (stamped.bounded lost lostEq) jiffiesBound small

/-- A packet that is not a message of protocol 1. -/
def packet : SkBuff :=
  Transmit.devAllocSkb (.buffer 0) 0 [0x45] (by decide)

def emptyQueue : TpQueue SkBuff :=
  tpqInit TP_QUEUE_DROP_NEWEST 1000

/-- A client connects at the tick 100 and loses its link at the tick `lost`. -/
def connectAndLose (lost : Nat) : List TimedLabel :=
  [⟨0, .peer (some serverAddress)⟩, ⟨100, .connectHandler allSucceed 0 100⟩,
    ⟨lost, .allSubflowDown 0 lost⟩]

theorem gracedAt_connectAndLose :
    ∃ state, run (timedStep 100) (timedInitial false true) (connectAndLose 500) = some state ∧
      (GracedAt 100 { state.conn.tdat with xmitQueue := emptyQueue } packet 500 6500 ↔
        (500 + 60 * 100 < 2 ^ 64 ↔ 500 ≤ 6500)) := by
  refine ⟨_, rfl, ?_⟩
  exact gracedAt_iff_same_side 100 (by decide) false true (connectAndLose 500) _ (by decide)
    rfl emptyQueue packet 500 6500 (by decide) rfl rfl (by decide) (by decide)

/-- A rebind that cannot connect again leaves the old time stamp, the timer after a
link-down sets a new one, and a limit behind the wrap of the counter is below the tick of
the loss. -/
theorem not_gracedAt_rebind_or_timer_or_wrap :
    (∃ state, run (timedStep 100) (timedInitial false true)
        [⟨0, .peer (some serverAddress)⟩, ⟨100, .connectHandler allSucceed 0 100⟩,
          ⟨50000, .bind (some serverAddress) 0⟩,
          ⟨50000, .connectHandler allSucceed (-111) 50000⟩] = some state ∧
        state.lostAt = some 50000 ∧
        ¬ GracedAt 100 { state.conn.tdat with xmitQueue := emptyQueue } packet 50000 50001) ∧
      (∃ state, run (timedStep 100) (timedInitial false true)
        (connectAndLose 200 ++ [⟨600, .connTimer 600⟩]) = some state ∧
        state.lostAt = some 200 ∧
        ¬ GracedAt 100 { state.conn.tdat with xmitQueue := emptyQueue } packet 200 6500) ∧
      ∃ state, run (timedStep 100) (timedInitial false true)
        (connectAndLose 18446744073709551615) = some state ∧
        state.lostAt = some 18446744073709551615 ∧
        ¬ GracedAt 100 { state.conn.tdat with xmitQueue := emptyQueue } packet
          18446744073709551615 18446744073709551615 := by
  refine ⟨⟨_, rfl, rfl, ?_⟩, ⟨_, rfl, rfl, ?_⟩, ⟨_, rfl, rfl, ?_⟩⟩
  · unfold GracedAt
    decide
  · unfold GracedAt
    decide
  · unfold GracedAt
    decide

end Tunprox.GracePeriod
