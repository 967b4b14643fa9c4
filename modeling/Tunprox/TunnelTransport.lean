import Mathlib.Data.List.GetD
import Tunprox.AcceptDrain
import Tunprox.PacketLine

/-!
# From one end of the tunnel to the other

The transmit system at one end, the network, and the receive path at the other end.  The network
carries whole datagrams: it may lose them and deliver them in another order, but it neither
changes nor repeats one.  The buffer in which a datagram arrives may be laid out in any way.
-/

namespace Tunprox.TunnelTransport

open AcceptDrain (mpdccptunDorcv2_cons mpdccptunDorcv2_nil)
open LabelledRun PacketLine Receive
open Transmit (XmitState sendmsgCalled connectedClient)

section Path

/-- The members of the buffer agree about how much data there is. -/
def Whole (skb : SkBuff) : Prop :=
  skb.len = skb.headlen + skb.frags.length

instance (skb : SkBuff) : Decidable (Whole skb) :=
  inferInstanceAs (Decidable (_ = _))

/-- What `mpdccptun_dorcv2` passes to `netif_rx`. -/
def passed (env : RcvEnv) (state : RcvState) : List SkBuff :=
  match state.rcvQueue with
  | [] => []
  | skb :: _ =>
      (workingSkb env skb).toList.filter fun working =>
        decide (.netifRx working.id ∈
          (mpdccptunDorcv2 env state).2.log.drop state.log.length)

/-- Both ends of a tunnel and the datagrams on the way.  The lists `given` and `delivered` are a
history: what was given to one end, and what came out of the other. -/
structure Path where
  sender : XmitState
  given : List (List UInt8)
  wire : List (List UInt8)
  receiver : RcvState
  delivered : List (List UInt8)

inductive Label where
  | sender (label : Transmit.Label)
  | lose (index : Nat)
  | arrive (index : Nat) (skb : SkBuff)
  | receive

def step (hz : Nat) (env : RcvEnv) (path : Path) : Label → Option Path
  | .sender label =>
      if GivesLinear label then
        (Transmit.step hz path.sender label).map fun next =>
          { path with
            sender := next
            given := path.given ++ taken hz path.sender label
            wire := path.wire ++ sends path.sender label }
      else none
  | .lose index => some { path with wire := path.wire.eraseIdx index }
  | .arrive index skb =>
      if Whole skb ∧ path.wire[index]? = some (content skb) then
        some { path with
          wire := path.wire.eraseIdx index
          receiver := { path.receiver with rcvQueue := path.receiver.rcvQueue ++ [skb] } }
      else none
  | .receive =>
      some { path with
        receiver := (mpdccptunDorcv2 env path.receiver).2
        delivered := path.delivered ++ (passed env path.receiver).map content }

/-- Two ends that have just been created. -/
def start (ipv6 ismpdccp : Bool) : Path where
  sender := Transmit.initial ipv6 ismpdccp
  given := []
  wire := []
  receiver := ⟨[], [], 0, 0, 0⟩
  delivered := []

/-- Everything that is on the way or has come out of the tunnel, from the first to the last. -/
def line (path : Path) : List (List UInt8) :=
  path.delivered ++ path.receiver.rcvQueue.map content ++ path.wire ++ lineContents path.sender

end Path

section Receiver

theorem byte_copied {skb : SkBuff} (fill : Nat → UInt8) (index : Nat)
    (inside : index < skb.headlen) : (skb.copied fill).byte index = skb.byte index := by
  have linear : skb.data + index < skb.data + skb.headlen := by omega
  simp only [SkBuff.byte, SkBuff.copied, linear, if_true]

theorem byte_copied_frags {skb : SkBuff} (fill : Nat → UInt8) (index : Nat)
    (inside : index < skb.frags.length) :
    (skb.copied fill).byte (skb.headlen + index) = skb.frags[index] := by
  have behind : ¬ skb.data + (skb.headlen + index) < skb.data + skb.headlen := by omega
  have offset : skb.data + (skb.headlen + index) - (skb.data + skb.headlen) = index := by omega
  simp only [SkBuff.byte, SkBuff.copied, behind, if_false, offset]
  rw [List.getD_eq_getElem _ _ inside]

/-- A copy contains the same, all of it in its linear area. -/
theorem content_copied {skb : SkBuff} (whole : Whole skb) (fill : Nat → UInt8) :
    content (skb.copied fill) = content skb := by
  have linear : (List.range skb.headlen).map (skb.copied fill).byte =
      (List.range skb.headlen).map skb.byte :=
    List.map_congr_left fun index member => byte_copied fill index (List.mem_range.mp member)
  have frags : (List.range skb.frags.length).map
      (fun index => (skb.copied fill).byte (skb.headlen + index)) = skb.frags := by
    apply List.ext_getElem
    · simp
    · intro index inside _
      simp only [List.length_map, List.length_range] at inside
      simp [byte_copied_frags fill index inside]
  calc content (skb.copied fill)
      = (List.range (skb.headlen + skb.frags.length)).map (skb.copied fill).byte := by
        rw [content, ← show skb.len = skb.headlen + skb.frags.length from whole]
        exact List.append_nil _
    _ = content skb := by
        rw [List.range_add, List.map_append, List.map_map, linear]
        exact congrArg _ frags

/-- A kernel from 4.7 on has removed the DCCP header, so the buffer that is worked on contains
the datagram. -/
theorem content_workingSkb {env : RcvEnv} (bare : env.keepsHeader = false) {skb working : SkBuff}
    (whole : Whole skb) (workingEq : workingSkb env skb = some working) :
    content working = content skb ∧ Whole working := by
  have unpulled (other : SkBuff) : pullHeader env other = other := by
    rw [pullHeader, bare]
    rfl
  unfold workingSkb at workingEq
  split at workingEq
  · obtain ⟨fill, -, rfl⟩ := Option.map_eq_some_iff.mp workingEq
    rw [unpulled]
    exact ⟨content_copied whole fill, rfl⟩
  · cases workingEq
    rw [unpulled]
    exact ⟨rfl, whole⟩

/-- Only packets with the version numbers of IP are passed on. -/
theorem version_of_elabEvents {skb : SkBuff} {id : BufId}
    (recorded : .netifRx id ∈ elabEvents skb) :
    tpGetpkttype (skb.byte 0) = 4 ∨ tpGetpkttype (skb.byte 0) = 6 := by
  unfold elabEvents at recorded
  split_ifs at recorded with prot1 complete ip
  · simp at recorded
  · simp at recorded
  · exact ip
  · simp at recorded

theorem mem_passed {env : RcvEnv} {state : RcvState} {skb working : SkBuff}
    {rest : List SkBuff} (queued : state.rcvQueue = skb :: rest)
    (member : working ∈ passed env state) :
    workingSkb env skb = some working ∧ working.len ≠ 0 ∧
      (tpGetpkttype (working.byte 0) = 4 ∨ tpGetpkttype (working.byte 0) = 6) := by
  simp only [passed, queued, List.mem_filter, Option.mem_toList, decide_eq_true_eq] at member
  obtain ⟨workingEq, recorded⟩ := member
  rw [mpdccptunDorcv2_log env state skb rest queued, List.drop_left, dorcv2Events,
    workingEq] at recorded
  have reached : working.len ≠ 0 ∧ .netifRx working.id ∈ elabEvents working := by
    by_cases negative : toInt32 working.len < 0
    · simp [negative] at recorded
    · by_cases empty : working.len = 0
      · simp [empty] at recorded
      · simp only [negative, empty, if_false] at recorded
        refine ⟨empty, ?_⟩
        simpa using recorded
  exact ⟨workingEq, reached.1, version_of_elabEvents reached.2⟩

/-- A round passes on what the first datagram contains, or nothing. -/
theorem passed_sublist {env : RcvEnv} (bare : env.keepsHeader = false) {state : RcvState}
    {skb : SkBuff} {rest : List SkBuff} (queued : state.rcvQueue = skb :: rest)
    (whole : Whole skb) : ((passed env state).map content).Sublist [content skb] := by
  have kept : (passed env state).Sublist (workingSkb env skb).toList := by
    rw [passed, queued]
    exact List.filter_sublist
  cases workingEq : workingSkb env skb with
  | none =>
      rw [workingEq] at kept
      rw [List.sublist_nil.mp kept]
      exact List.nil_sublist _
  | some working =>
      rw [workingEq] at kept
      rw [← (content_workingSkb bare whole workingEq).1]
      exact kept.map content

end Receiver

section Once

variable {hz : Nat} {env : RcvEnv} {path next : Path}

/-- What is on the way and what has come out was given at least as often. -/
structure Carries (path : Path) : Prop where
  sender : LineLinear path.sender
  whole : ∀ skb ∈ path.receiver.rcvQueue, Whole skb
  bounded : ∀ bytes, (line path).count bytes ≤ path.given.count bytes

theorem whole_of_receive (whole : ∀ skb ∈ path.receiver.rcvQueue, Whole skb) :
    ∀ skb ∈ (mpdccptunDorcv2 env path.receiver).2.rcvQueue, Whole skb := by
  cases queued : path.receiver.rcvQueue with
  | nil =>
      rw [mpdccptunDorcv2_nil env queued]
      exact whole
  | cons skb rest =>
      rw [(mpdccptunDorcv2_cons env queued).2]
      rw [queued] at whole
      exact fun other member => whole other (List.mem_cons_of_mem _ member)

/-- A round of the receiver moves a packet out of the tunnel or drops it. -/
theorem receive_sublist (bare : env.keepsHeader = false)
    (whole : ∀ skb ∈ path.receiver.rcvQueue, Whole skb) :
    ((passed env path.receiver).map content ++
        (mpdccptunDorcv2 env path.receiver).2.rcvQueue.map content).Sublist
      (path.receiver.rcvQueue.map content) := by
  cases queued : path.receiver.rcvQueue with
  | nil =>
      have nothing : passed env path.receiver = [] := by rw [passed, queued]
      rw [mpdccptunDorcv2_nil env queued, nothing, queued]
      exact List.Sublist.refl _
  | cons skb rest =>
      have front : skb ∈ path.receiver.rcvQueue := by
        rw [queued]
        exact List.mem_cons_self
      have first := passed_sublist bare queued (whole skb front)
      rw [(mpdccptunDorcv2_cons env queued).2]
      exact first.append (List.Sublist.refl _)

theorem carries_of_step (bare : env.keepsHeader = false) {label : Label} (carries : Carries path)
    (stepped : step hz env path label = some next) : Carries next := by
  have bounded := carries.bounded
  cases label with
  | sender label =>
      simp only [step, Option.ite_none_right_eq_some, Option.map_eq_some_iff] at stepped
      obtain ⟨linear, sender, senderStepped, rfl⟩ := stepped
      have moves := lineMoves_of_step carries.sender.policy linear senderStepped
      constructor
      · exact lineLinear_of_step carries.sender linear senderStepped
      · exact carries.whole
      · intro bytes
        have here := bounded bytes
        have moved := moves.count_le carries.sender bytes
        simp only [line, List.count_append] at here ⊢
        omega
  | lose index =>
      cases stepped
      constructor
      · exact carries.sender
      · exact carries.whole
      · intro bytes
        have here := bounded bytes
        have fewer := (List.eraseIdx_sublist path.wire index).count_le bytes
        simp only [line, List.count_append] at here ⊢
        omega
  | arrive index skb =>
      simp only [step, Option.ite_none_right_eq_some, Option.some.injEq] at stepped
      obtain ⟨⟨whole, found⟩, rfl⟩ := stepped
      obtain ⟨inside, here⟩ := List.getElem?_eq_some_iff.mp found
      have perm := List.getElem_cons_eraseIdx_perm inside
      constructor
      · exact carries.sender
      · intro other member
        rcases List.mem_append.mp member with before | new
        · exact carries.whole other before
        · rw [List.mem_singleton.mp new]
          exact whole
      · intro bytes
        have here' := bounded bytes
        have same := perm.count_eq bytes
        rw [here] at same
        simp only [line, List.count_append, List.map_append, List.map_cons, List.map_nil,
          List.count_cons, List.count_nil] at here' same ⊢
        omega
  | receive =>
      cases stepped
      constructor
      · exact carries.sender
      · exact whole_of_receive carries.whole
      · intro bytes
        have here := bounded bytes
        have moved := (receive_sublist bare carries.whole).count_le bytes
        simp only [line, List.count_append] at here moved ⊢
        omega

theorem carries_start (ipv6 ismpdccp : Bool) : Carries (start ipv6 ismpdccp) where
  sender := ⟨Queue.validPolicy_tpqInit _ _, List.forall_mem_nil _⟩
  whole := List.forall_mem_nil _
  bounded := fun _ => Nat.le_refl _

/-- In every run every packet that comes out of the tunnel was given to its other end, and none
comes out more often than it was given, however the network loses or reorders datagrams and
however the queues, the handlers and the memory for copies behave. -/
theorem delivered_subperm (hz : Nat) {env : RcvEnv} (bare : env.keepsHeader = false)
    (ipv6 ismpdccp : Bool) (labels : List Label) {path : Path}
    (ran : run (step hz env) (start ipv6 ismpdccp) labels = some path) :
    path.delivered.Subperm path.given := by
  have carries : Carries path := invariant_of_run
    (fun carries stepped => carries_of_step bare carries stepped) (carries_start _ _) ran
  rw [List.subperm_ext_iff]
  intro bytes member
  have bounded := carries.bounded bytes
  simp only [line, List.count_append] at bounded
  omega

/-- A packet of version 4 whose bytes are all the same. -/
def plainPacket (number : Nat) (fill : UInt8) : SkBuff :=
  { TransmitAccount.ipPacket with id := .buffer number, mem := fun _ => fill }

/-- A connected client gets two packets and sends both. -/
def sendTwo : List Label :=
  [.sender (.connection connectedClient),
    .sender (.ldtMpdccptunXmit 0 (plainPacket 0 0x45) 0 true),
    .sender (.ldtMpdccptunXmit 1 (plainPacket 1 0x46) 0 true),
    .sender (.readFlag 0), .sender (.queueXmit 0), .sender (.start .xmit),
    .sender (.clearFlag .xmit), .sender (.dequeue .xmit), .sender (.send .xmit 20),
    .sender (.dequeue .xmit), .sender (.send .xmit 20)]

/-- The network delivers the later packet first. -/
theorem delivered_overtaken :
    ∃ path, run (step 100 env414) (start false false)
        (sendTwo ++ [.arrive 1 (plainPacket 0 0x46), .arrive 0 (plainPacket 1 0x45),
          .receive, .receive]) = some path ∧
      path.delivered = [List.replicate 20 0x46, List.replicate 20 0x45] ∧
      path.delivered.Subperm path.given := by
  refine ⟨_, rfl, rfl, ?_⟩
  exact delivered_subperm 100 rfl false false
    (sendTwo ++ [.arrive 1 (plainPacket 0 0x46), .arrive 0 (plainPacket 1 0x45),
      .receive, .receive]) rfl

end Once

section Order

variable {hz : Nat} {env : RcvEnv} {path next : Path}

/-- The network does not let a datagram overtake another, and a handler of the sender takes a
packet only while the other one holds none. -/
def KeepsOrder (path : Path) : Label → Prop
  | .sender label => TransmitOrder.TakesAlone path.sender label
  | .arrive index _ => index = 0
  | .lose _ | .receive => True

instance (path : Path) : (label : Label) → Decidable (KeepsOrder path label)
  | .sender label => inferInstanceAs (Decidable (TransmitOrder.TakesAlone path.sender label))
  | .arrive index _ => inferInstanceAs (Decidable (index = 0))
  | .lose _ | .receive => inferInstanceAs (Decidable True)

/-- No packet on the way or behind it has overtaken another. -/
structure CarriesInOrder (path : Path) : Prop extends Carries path where
  ordered : TransmitOrder.Ordered path.sender
  order : (line path).Sublist path.given

theorem line_sublist_of_step (bare : env.keepsHeader = false) {label : Label}
    (keeps : KeepsOrder path label) (carries : CarriesInOrder path)
    (stepped : step hz env path label = some next) : CarriesInOrder next := by
  have carriesNext := carries_of_step bare carries.toCarries stepped
  have order := carries.order
  cases label with
  | sender label =>
      simp only [step, Option.ite_none_right_eq_some, Option.map_eq_some_iff] at stepped
      obtain ⟨linear, sender, senderStepped, rfl⟩ := stepped
      have orderedNext := TransmitOrder.ordered_of_moves keeps carries.ordered
        (Transmit.moves_of_step senderStepped)
      have moved := (lineMoves_of_step carries.sender.policy linear senderStepped).sublist
        carries.sender (alone_of_ordered carries.ordered) (alone_of_ordered orderedNext)
      refine ⟨carriesNext, orderedNext, ?_⟩
      have before := (List.Sublist.refl (path.delivered ++ path.receiver.rcvQueue.map content ++
        path.wire)).append moved
      have behind := order.append (List.Sublist.refl (taken hz path.sender label))
      simp only [line, List.append_assoc] at before behind ⊢
      exact before.trans behind
  | lose index =>
      cases stepped
      refine ⟨carriesNext, carries.ordered, ?_⟩
      apply List.Sublist.trans _ order
      apply List.Sublist.append _ (List.Sublist.refl _)
      exact (List.Sublist.refl _).append (List.eraseIdx_sublist path.wire index)
  | arrive index skb =>
      simp only [step, Option.ite_none_right_eq_some, Option.some.injEq] at stepped
      obtain ⟨⟨-, found⟩, rfl⟩ := stepped
      refine ⟨carriesNext, carries.ordered, ?_⟩
      obtain rfl : index = 0 := keeps
      cases wire : path.wire with
      | nil =>
          rw [wire] at found
          cases found
      | cons bytes rest =>
          rw [wire] at found
          cases found
          simpa [line, wire] using order
  | receive =>
      cases stepped
      refine ⟨carriesNext, carries.ordered, ?_⟩
      have moved := receive_sublist bare carries.whole
      have whole := ((List.Sublist.refl path.delivered).append moved).append
        (List.Sublist.refl (path.wire ++ lineContents path.sender))
      simp only [line, List.append_assoc] at whole order ⊢
      exact whole.trans order

/-- As long as the order is kept on the way, the packets come out of the tunnel in the order in
which they were given to it. -/
theorem delivered_sublist (hz : Nat) {env : RcvEnv} (bare : env.keepsHeader = false)
    (ipv6 ismpdccp : Bool) (labels : List Label)
    (keeps : Guarded (step hz env) KeepsOrder (start ipv6 ismpdccp) labels) {path : Path}
    (ran : run (step hz env) (start ipv6 ismpdccp) labels = some path) :
    path.delivered.Sublist path.given := by
  have begins : CarriesInOrder (start ipv6 ismpdccp) :=
    ⟨carries_start _ _, TransmitOrder.ordered_initial _ _, List.Sublist.refl _⟩
  have carries : CarriesInOrder path := invariant_of_guarded
    (fun keeps carries stepped => line_sublist_of_step bare keeps carries stepped) keeps begins ran
  have first : path.delivered.Sublist (line path) := by
    simp only [line, List.append_assoc]
    exact List.sublist_append_left _ _
  exact first.trans carries.order

/-- The first packet is lost and the second one comes out. -/
theorem delivered_behind_lost :
    ∃ path, run (step 100 env414) (start false false)
        (sendTwo ++ [.lose 0, .arrive 0 (plainPacket 0 0x46), .receive]) = some path ∧
      path.delivered = [List.replicate 20 0x46] ∧ path.delivered.Sublist path.given := by
  refine ⟨_, rfl, rfl, ?_⟩
  exact delivered_sublist 100 rfl false false
    (sendTwo ++ [.lose 0, .arrive 0 (plainPacket 0 0x46), .receive]) (by decide) rfl

end Order

section Version

variable {hz : Nat} {env : RcvEnv} {path next : Path}

/-- The packet starts with a version number of IP. -/
def IsIp (bytes : List UInt8) : Prop :=
  ∃ first rest, bytes = first :: rest ∧ (tpGetpkttype first = 4 ∨ tpGetpkttype first = 6)

/-- The first byte of a buffer that is not empty is in the linear area. -/
def StartsLinear (skb : SkBuff) : Prop :=
  skb.len ≠ 0 → skb.headlen ≠ 0

instance (skb : SkBuff) : Decidable (StartsLinear skb) :=
  inferInstanceAs (Decidable (_ → _))

def ArrivesLinear (_ : Path) : Label → Prop
  | .arrive _ skb => StartsLinear skb
  | _ => True

instance (path : Path) : (label : Label) → Decidable (ArrivesLinear path label)
  | .arrive _ skb => inferInstanceAs (Decidable (StartsLinear skb))
  | .sender _ | .lose _ | .receive => inferInstanceAs (Decidable True)

theorem isIp_content {skb : SkBuff} (filled : skb.headlen ≠ 0)
    (version : tpGetpkttype (skb.byte 0) = 4 ∨ tpGetpkttype (skb.byte 0) = 6) :
    IsIp (content skb) := by
  obtain ⟨more, headlen⟩ := Nat.exists_eq_succ_of_ne_zero filled
  rw [content, headlen, List.range_succ_eq_map, List.map_cons, List.cons_append]
  exact ⟨_, _, rfl, version⟩

theorem headlen_workingSkb {skb working : SkBuff} (bare : env.keepsHeader = false)
    (start : StartsLinear skb) (workingEq : workingSkb env skb = some working)
    (filled : working.len ≠ 0) : working.headlen ≠ 0 := by
  have unpulled (other : SkBuff) : pullHeader env other = other := by
    rw [pullHeader, bare]
    rfl
  unfold workingSkb at workingEq
  split at workingEq
  · obtain ⟨fill, -, rfl⟩ := Option.map_eq_some_iff.mp workingEq
    rw [unpulled] at filled ⊢
    exact filled
  · cases workingEq
    rw [unpulled] at filled ⊢
    exact start filled

/-- The receiver has passed on packets of IP only. -/
structure PassesIp (path : Path) : Prop where
  linear : ∀ skb ∈ path.receiver.rcvQueue, StartsLinear skb
  delivered : ∀ bytes ∈ path.delivered, IsIp bytes

theorem passesIp_of_step (bare : env.keepsHeader = false) {label : Label}
    (arrives : ArrivesLinear path label) (passes : PassesIp path)
    (stepped : step hz env path label = some next) : PassesIp next := by
  cases label with
  | sender label =>
      simp only [step, Option.ite_none_right_eq_some, Option.map_eq_some_iff] at stepped
      obtain ⟨-, sender, -, rfl⟩ := stepped
      exact ⟨passes.linear, passes.delivered⟩
  | lose index =>
      cases stepped
      exact ⟨passes.linear, passes.delivered⟩
  | arrive index skb =>
      simp only [step, Option.ite_none_right_eq_some, Option.some.injEq] at stepped
      obtain ⟨-, rfl⟩ := stepped
      refine ⟨?_, passes.delivered⟩
      intro other member
      rcases List.mem_append.mp member with before | new
      · exact passes.linear other before
      · rw [List.mem_singleton.mp new]
        exact arrives
  | receive =>
      cases stepped
      cases queued : path.receiver.rcvQueue with
      | nil =>
          have nothing : passed env path.receiver = [] := by rw [passed, queued]
          constructor
          · rw [mpdccptunDorcv2_nil env queued]
            exact passes.linear
          · rw [nothing, List.map_nil, List.append_nil]
            exact passes.delivered
      | cons skb rest =>
          have linear := passes.linear
          rw [queued, List.forall_mem_cons] at linear
          constructor
          · rw [(mpdccptunDorcv2_cons env queued).2]
            exact linear.2
          · intro bytes member
            rcases List.mem_append.mp member with before | new
            · exact passes.delivered bytes before
            · obtain ⟨working, passedOn, rfl⟩ := List.mem_map.mp new
              obtain ⟨workingEq, filled, version⟩ := mem_passed queued passedOn
              exact isIp_content (headlen_workingSkb bare linear.1 workingEq filled) version

/-- As long as the first byte of each datagram arrives in the linear area, nothing but packets
of IP comes out of the tunnel: no message of the tunnel's own protocol does. -/
theorem delivered_isIp (hz : Nat) {env : RcvEnv} (bare : env.keepsHeader = false)
    (ipv6 ismpdccp : Bool) (labels : List Label)
    (arrives : Guarded (step hz env) ArrivesLinear (start ipv6 ismpdccp) labels) {path : Path}
    (ran : run (step hz env) (start ipv6 ismpdccp) labels = some path) :
    ∀ bytes ∈ path.delivered, IsIp bytes := by
  have begins : PassesIp (start ipv6 ismpdccp) :=
    ⟨List.forall_mem_nil _, List.forall_mem_nil _⟩
  have passes : PassesIp path := invariant_of_guarded
    (fun arrives passes stepped => passesIp_of_step bare arrives passes stepped) arrives begins ran
  exact passes.delivered

/-- A message of the tunnel's own protocol is sent before a packet, and only the packet comes
out. -/
def sendMessage : List Label :=
  [.sender (.connection connectedClient),
    .sender (.mpdccptunXmit 0 (some (.buffer 2)) Transmit.message 0 true)] ++ sendTwo.drop 2 ++
    [.arrive 0 (linearSkb 0 Transmit.message.1 Transmit.message.2),
      .arrive 0 (plainPacket 1 0x46), .receive, .receive]

theorem delivered_beside_message :
    ∃ path, run (step 100 env414) (start false false) sendMessage = some path ∧
      path.given = [[0x10, 1, 0, 4], List.replicate 20 0x46] ∧
      path.delivered = [List.replicate 20 0x46] ∧ ∀ bytes ∈ path.delivered, IsIp bytes := by
  refine ⟨_, rfl, rfl, rfl, ?_⟩
  exact delivered_isIp 100 rfl false false sendMessage (by decide) rfl

end Version

end Tunprox.TunnelTransport
