import Tunprox.Event
import Tunprox.LabelledRun
import Tunprox.Netlink

/-!
# The connection of the tool library

The library of the tool keeps one netlink connection.  The caller opens and closes it
with `ldt_open`, `ldt_event_open` and `ldt_close`, or leaves that to the commands:
`ldt_nl_send` opens what is not open, sets `autoopen`, and `ldt_mayclose` closes at the
end of the command what has that flag.  A command whose message cannot be sent returns
before it comes to `ldt_mayclose`.  Then the connection and its flag stay, and the next
command closes the connection even if the caller has asked for it in the meantime.

What is not known here comes with the call: the message or the error with which it was
given up, and the results of the functions of the netlink library.
-/

namespace Tunprox.ToolConnection

open LabelledRun Event
open Netlink (RERR_OK RERR_FAIL RERR_SYSTEM RERR_TIMEDOUT)

def RERR_NOT_AVAILABLE : Int := -17

/-- `tpfd` and `autoopen`.  Beside them stands whether the caller has asked for the
connection, whether only `ldt_nl_send` has opened it, and whether `ldt_mayclose` has ever
closed one that the caller had asked for. -/
structure Library where
  tpfd : Int
  autoopen : Bool
  asked : Bool
  onlyImplicit : Bool
  taken : Bool
  deriving DecidableEq, Repr

def initial : Library where
  tpfd := -1
  autoopen := false
  asked := false
  onlyImplicit := false
  taken := false

/-- The message a function has built, or the error it returns instead, and the results of
`fnl_gopen2`, `fnl_send`, the functions that read the answer, and `fnl_close`. -/
structure Calls where
  message : Except Int (List UInt8)
  gopen : Int
  send : Int
  answer : Int
  close : Int

/-- `ldt_open` -/
def ldtOpen (library : Library) (gopen : Int) : Int × Library :=
  if 0 ≤ library.tpfd then (library.tpfd, library)
  else if gopen < 0 then (gopen, { library with tpfd := gopen })
  else (RERR_OK, { library with tpfd := gopen })

/-- `ldt_close` -/
def ldtClose (library : Library) (close : Int) : Int × Library :=
  if library.tpfd < 0 then (RERR_OK, library)
  else
    (close, { library with
      tpfd := -1
      autoopen := false
      asked := false
      onlyImplicit := false })

/-- `ldt_mayclose` -/
def ldtMayclose (library : Library) (close : Int) : Int × Library :=
  if !library.autoopen then (RERR_OK, library)
  else ldtClose { library with taken := library.taken || library.asked } close

/-- `ldt_nl_send` -/
def ldtNlSend (library : Library) (msg : List UInt8) (calls : Calls) : Int × Library :=
  if msg = [] then (RERR_OK, library)
  else if library.tpfd < 0 then
    match ldtOpen library calls.gopen with
    | (ret, opened) =>
        if ret < 0 then (ret, opened)
        else (calls.send, { opened with autoopen := true, onlyImplicit := true })
  else (calls.send, library)

/-- `ldt_nl_getret` and `ldt_nl_getanswer`, as far as they need the connection. -/
def ldtNlGetret (library : Library) (answer : Int) : Int :=
  if library.tpfd < 0 then RERR_NOT_AVAILABLE else answer

/-- A command: `ldt_create_dev`, `ldt_rm_dev`, `ldt_rm_tun`, `ldt_newtun`, `ldt_tunbind`,
`ldt_tunbind2dev`, `do_tun_setpeer`, `ldt_tun_setqueue`, `do_tun_serverstart`,
`ldt_set_mtu`, `ldt_event_send` and the functions of `ldt_getinfo.c` differ in their
messages and answers only. -/
def command (library : Library) (calls : Calls) : Int × Library :=
  match calls.message with
  | .error ret => (ret, library)
  | .ok msg =>
      match ldtNlSend library msg calls with
      | (ret, sent) =>
          if ret < 0 then (ret, sent)
          else (ldtNlGetret sent calls.answer, (ldtMayclose sent calls.close).2)

/-- `ldt_subscribe` -/
def ldtSubscribe (library : Library) (calls : Calls) : Int × Library :=
  match ldtOpen library calls.gopen with
  | (ret, opened) =>
      if ret < 0 then (ret, opened)
      else
        match calls.message with
        | .error ret => (ret, opened)
        | .ok msg =>
            match ldtNlSend opened msg calls with
            | (ret, sent) =>
                if ret < 0 then (ret, sent) else (ldtNlGetret sent calls.answer, sent)

/-- `ldt_event_open` -/
def ldtEventOpen (library : Library) (calls : Calls) : Int × Library :=
  ldtSubscribe library calls

/-- `ldt_event_close` -/
def ldtEventClose (library : Library) (close : Int) : Int × Library :=
  ldtClose library close

/-- What a function that waits for the outcome of its request meets on its way: the
subscription, the request, whether the timeout is not zero, the event or the error with
which the wait ends, the message about a failure and the last `fnl_close`. -/
structure WaitCalls where
  subscribe : Calls
  request : Calls
  wait : Bool
  waited : Except Int EvType
  report : Calls
  close : Int

/-- `ldt_waitifaceev`, as far as it needs the connection. -/
def ldtWaitifaceev (library : Library) (waited : Except Int EvType) : Except Int EvType :=
  if library.tpfd < 0 then .error RERR_NOT_AVAILABLE else waited

/-- The common body of `ldt_tun_setpeer` and `ldt_tun_serverstart`, with the types of the
events for success and failure. -/
def requestAndWait (established failed : EvType) (library : Library) (calls : WaitCalls) :
    Int × Library :=
  let subscribed := (ldtEventOpen library calls.subscribe).2
  match command subscribed calls.request with
  | (ret, requested) =>
      if ret < 0 then (ret, (ldtMayclose requested calls.close).2)
      else if !calls.wait then (RERR_OK, requested)
      else
        match ldtWaitifaceev requested calls.waited with
        | .error ret =>
            let reported :=
              if ret = RERR_TIMEDOUT then requested else (command requested calls.report).2
            (ret, (ldtMayclose reported calls.close).2)
        | .ok evtype =>
            if evtype = established then (RERR_OK, (ldtMayclose requested calls.close).2)
            else if evtype = failed then (RERR_SYSTEM, (ldtMayclose requested calls.close).2)
            else
              let reported :=
                match evtype with
                | .tundown | .ifdown | .tpdown | .rebind =>
                    (command requested calls.report).2
                | _ => requested
              (RERR_FAIL, (ldtMayclose reported calls.close).2)

/-- `ldt_tun_setpeer` -/
def ldtTunSetpeer : Library → WaitCalls → Int × Library :=
  requestAndWait .connEstab .connEstabFail

/-- `ldt_tun_serverstart` -/
def ldtTunServerstart : Library → WaitCalls → Int × Library :=
  requestAndWait .connListen .connListenFail

/-- The caller has asked for the connection if the call succeeds. -/
def ask (result : Int × Library) : Library :=
  if result.1 < 0 then result.2 else { result.2 with asked := true, onlyImplicit := false }

/-- A call of the library. -/
inductive Label where
  | ldtOpen (gopen : Int)
  | ldtEventOpen (calls : Calls)
  | ldtClose (close : Int)
  | ldtEventClose (close : Int)
  | command (calls : Calls)
  | ldtTunSetpeer (calls : WaitCalls)
  | ldtTunServerstart (calls : WaitCalls)

/-- The state after a call. -/
def perform (library : Library) : Label → Library
  | .ldtOpen gopen => ask (ldtOpen library gopen)
  | .ldtEventOpen calls => ask (ldtEventOpen library calls)
  | .ldtClose close => (ldtClose library close).2
  | .ldtEventClose close => (ldtEventClose library close).2
  | .command calls => (command library calls).2
  | .ldtTunSetpeer calls => (ldtTunSetpeer library calls).2
  | .ldtTunServerstart calls => (ldtTunServerstart library calls).2

def step (library : Library) (label : Label) : Option Library :=
  some (perform library label)

/-- No connection that the caller had asked for was closed by a command, and none is left
that a command has opened for itself. -/
def Kept (library : Library) : Prop :=
  library.taken = false ∧ library.onlyImplicit = false

instance (library : Library) : Decidable (Kept library) :=
  inferInstanceAs (Decidable (_ ∧ _))

/-- The command opens the connection for itself and cannot send its message. -/
def Strands (library : Library) (calls : Calls) : Prop :=
  match calls.message with
  | .error _ => False
  | .ok msg => msg ≠ [] ∧ library.tpfd < 0 ∧ 0 ≤ calls.gopen ∧ calls.send < 0

/-- A command that opens the connection for itself can send its message. -/
def Sends (library : Library) : Label → Prop
  | .command calls => ¬ Strands library calls
  | _ => True

/-- The flag `autoopen` tells which connections nobody has asked for. -/
structure Sound (library : Library) : Prop where
  untaken : library.taken = false
  autoopen : library.autoopen = library.onlyImplicit
  unasked : library.onlyImplicit = true → library.asked = false
  closed : library.tpfd < 0 → library.onlyImplicit = false ∧ library.asked = false

/-- Between the calls no connection is there that a command has opened for itself. -/
structure Tidy (library : Library) : Prop extends Sound library where
  owned : library.onlyImplicit = false

theorem tidy_initial : Tidy initial where
  untaken := rfl
  autoopen := rfl
  unasked := nofun
  closed := fun _ => ⟨rfl, rfl⟩
  owned := rfl

/-- What `ldt_open` can do: leave an open connection, fail, or open one. -/
theorem ldtOpen_cases (library : Library) (gopen : Int) :
    (0 ≤ library.tpfd ∧ ldtOpen library gopen = (library.tpfd, library)) ∨
      (library.tpfd < 0 ∧ gopen < 0 ∧
        ldtOpen library gopen = (gopen, { library with tpfd := gopen })) ∨
      (library.tpfd < 0 ∧ 0 ≤ gopen ∧
        ldtOpen library gopen = (RERR_OK, { library with tpfd := gopen })) := by
  unfold ldtOpen
  by_cases opened : 0 ≤ library.tpfd
  · exact .inl ⟨opened, by rw [if_pos opened]⟩
  · have closed : library.tpfd < 0 := Int.not_le.mp opened
    rw [if_neg opened]
    by_cases failed : gopen < 0
    · exact .inr (.inl ⟨closed, failed, by rw [if_pos failed]⟩)
    · exact .inr (.inr ⟨closed, Int.not_lt.mp failed, by rw [if_neg failed]⟩)

theorem Tidy.ldtOpen {library : Library} (tidy : Tidy library) (gopen : Int) :
    Tidy (ToolConnection.ldtOpen library gopen).2 := by
  rcases ldtOpen_cases library gopen with ⟨-, same⟩ | ⟨closed, -, failed⟩ | ⟨closed, -, opened⟩
  · rw [same]
    exact tidy
  · rw [failed]
    exact { tidy with closed := fun _ => tidy.closed closed }
  · rw [opened]
    exact { tidy with closed := fun _ => tidy.closed closed }

theorem ldtOpen_open {library : Library} {gopen : Int}
    (success : 0 ≤ (ldtOpen library gopen).1) : 0 ≤ (ldtOpen library gopen).2.tpfd := by
  rcases ldtOpen_cases library gopen with ⟨-, same⟩ | ⟨-, negative, failed⟩ | ⟨-, fd, opened⟩
  · rw [same] at success ⊢
    exact success
  · rw [failed] at success
    exact absurd success (Int.not_le.mpr negative)
  · rw [opened]
    exact fd

theorem Sound.ldtClose {library : Library} (sound : Sound library) (close : Int) :
    Tidy (ToolConnection.ldtClose library close).2 := by
  unfold ToolConnection.ldtClose
  by_cases closed : library.tpfd < 0
  · rw [if_pos closed]
    exact { sound with owned := (sound.closed closed).1 }
  · rw [if_neg closed]
    exact ⟨⟨sound.untaken, rfl, nofun, fun _ => ⟨rfl, rfl⟩⟩, rfl⟩

/-- The end of a command closes what the command has opened for itself, and nothing that
the caller has asked for. -/
theorem Sound.ldtMayclose {library : Library} (sound : Sound library) (close : Int) :
    Tidy (ToolConnection.ldtMayclose library close).2 := by
  unfold ToolConnection.ldtMayclose
  by_cases manual : (!library.autoopen) = true
  · rw [if_pos manual]
    have auto : library.autoopen = false := by simpa using manual
    exact { sound with owned := sound.autoopen.symm.trans auto }
  · rw [if_neg manual]
    have auto : library.autoopen = true := by simpa using manual
    have unasked := sound.unasked (sound.autoopen.symm.trans auto)
    have untaken : Sound { library with taken := library.taken || library.asked } :=
      { sound with untaken := by rw [unasked, sound.untaken]; rfl }
    exact untaken.ldtClose close

/-- The message goes through the connection that is there, or through a new one that is
only there for it. -/
theorem ldtNlSend_cases (library : Library) (msg : List UInt8) (calls : Calls) :
    (msg = [] ∧ ldtNlSend library msg calls = (RERR_OK, library)) ∨
      (msg ≠ [] ∧ 0 ≤ library.tpfd ∧ ldtNlSend library msg calls = (calls.send, library)) ∨
      (msg ≠ [] ∧ library.tpfd < 0 ∧ calls.gopen < 0 ∧
        ldtNlSend library msg calls = (calls.gopen, { library with tpfd := calls.gopen })) ∨
      (msg ≠ [] ∧ library.tpfd < 0 ∧ 0 ≤ calls.gopen ∧
        ldtNlSend library msg calls =
          (calls.send, { library with
            tpfd := calls.gopen
            autoopen := true
            onlyImplicit := true })) := by
  unfold ldtNlSend
  by_cases empty : msg = []
  · exact .inl ⟨empty, by rw [if_pos empty]⟩
  · rw [if_neg empty]
    rcases ldtOpen_cases library calls.gopen with
      ⟨opened, -⟩ | ⟨closed, negative, failed⟩ | ⟨closed, fd, opened⟩
    · exact .inr (.inl ⟨empty, opened, by rw [if_neg (Int.not_lt.mpr opened)]⟩)
    · refine .inr (.inr (.inl ⟨empty, closed, negative, ?_⟩))
      simp only [if_pos closed, failed, if_pos negative]
    · refine .inr (.inr (.inr ⟨empty, closed, fd, ?_⟩))
      have success : ¬ RERR_OK < 0 := by decide
      simp only [if_pos closed, opened, if_neg success]

theorem Tidy.ldtNlSend {library : Library} (tidy : Tidy library) (msg : List UInt8)
    (calls : Calls) : Sound (ToolConnection.ldtNlSend library msg calls).2 := by
  rcases ldtNlSend_cases library msg calls with
    ⟨-, same⟩ | ⟨-, -, same⟩ | ⟨-, closed, -, failed⟩ | ⟨-, closed, fd, opened⟩
  · rw [same]
    exact tidy.toSound
  · rw [same]
    exact tidy.toSound
  · rw [failed]
    exact { tidy.toSound with closed := fun _ => tidy.closed closed }
  · rw [opened]
    refine ⟨tidy.untaken, rfl, fun _ => (tidy.closed closed).2, ?_⟩
    intro stillClosed
    exact absurd fd (Int.not_le.mpr stillClosed)

/-- A command leaves a connection behind that it has opened for itself if and only if it
could not send its message through it; it fails then. -/
theorem Tidy.command {library : Library} (tidy : Tidy library) (calls : Calls) :
    Sound (ToolConnection.command library calls).2 ∧
      ((ToolConnection.command library calls).2.onlyImplicit = true ↔ Strands library calls) ∧
      (Strands library calls → (ToolConnection.command library calls).1 < 0) := by
  unfold ToolConnection.command Strands
  cases calls.message with
  | error ret => simp [tidy.toSound, tidy.owned]
  | ok msg =>
      have sound := tidy.ldtNlSend msg calls
      have sent := ldtNlSend_cases library msg calls
      simp only
      generalize ToolConnection.ldtNlSend library msg calls = result at sound sent
      obtain ⟨ret, after⟩ := result
      simp only [Prod.mk.injEq] at sent
      by_cases failed : ret < 0
      · simp only [if_pos failed]
        refine ⟨sound, ?_, fun _ => failed⟩
        rcases sent with ⟨empty, rfl, rfl⟩ | ⟨-, opened, rfl, rfl⟩ | ⟨-, -, negative, rfl, rfl⟩ |
          ⟨sends, closed, fd, rfl, rfl⟩
        · exact absurd failed (by decide)
        · simp [tidy.owned, Int.not_lt.mpr opened]
        · simp [tidy.owned, Int.not_le.mpr negative]
        · simp [sends, closed, fd, failed]
      · simp only [if_neg failed]
        have closed := sound.ldtMayclose calls.close
        have notStranded :
            ¬ (msg ≠ [] ∧ library.tpfd < 0 ∧ 0 ≤ calls.gopen ∧ calls.send < 0) := by
          rintro ⟨sends, closed, fd, negative⟩
          rcases sent with ⟨empty, -⟩ | ⟨-, opened, -⟩ | ⟨-, -, noFd, -⟩ | ⟨-, -, -, rfl, -⟩
          · exact sends empty
          · exact absurd opened (Int.not_le.mpr closed)
          · exact absurd fd (Int.not_le.mpr noFd)
          · exact failed negative
        refine ⟨closed.toSound, ?_, fun strands => absurd strands notStranded⟩
        simp only [closed.owned, Bool.false_eq_true, false_iff]
        exact notStranded

/-- The subscription uses a connection that is open. -/
theorem Tidy.ldtSubscribe {library : Library} (tidy : Tidy library) (calls : Calls) :
    Tidy (ToolConnection.ldtSubscribe library calls).2 := by
  have opens := tidy.ldtOpen calls.gopen
  have success := @ldtOpen_open library calls.gopen
  unfold ToolConnection.ldtSubscribe
  generalize ToolConnection.ldtOpen library calls.gopen = result at opens success
  obtain ⟨ret, opened⟩ := result
  by_cases failed : ret < 0
  · simp only [if_pos failed]
    exact opens
  · simp only [if_neg failed]
    have isOpen : 0 ≤ opened.tpfd := success (Int.not_lt.mp failed)
    cases calls.message with
    | error ret => exact opens
    | ok msg =>
        have unchanged : (ToolConnection.ldtNlSend opened msg calls).2 = opened := by
          rcases ldtNlSend_cases opened msg calls with
            ⟨-, same⟩ | ⟨-, -, same⟩ | ⟨-, closed, -⟩ | ⟨-, closed, -⟩
          · rw [same]
          · rw [same]
          · exact absurd isOpen (Int.not_le.mpr closed)
          · exact absurd isOpen (Int.not_le.mpr closed)
        simp only
        split_ifs
        · rw [unchanged]
          exact opens
        · rw [unchanged]
          exact opens

/-- A subscription that succeeds has a connection. -/
theorem ldtSubscribe_open {library : Library} {calls : Calls}
    (success : 0 ≤ (ldtSubscribe library calls).1) :
    0 ≤ (ldtSubscribe library calls).2.tpfd := by
  have opens := @ldtOpen_open library calls.gopen
  unfold ldtSubscribe at success ⊢
  generalize ldtOpen library calls.gopen = result at success opens ⊢
  obtain ⟨ret, opened⟩ := result
  by_cases failed : ret < 0
  · simp only [if_pos failed] at success
    exact absurd success (Int.not_le.mpr failed)
  · simp only [if_neg failed] at success ⊢
    have isOpen : 0 ≤ opened.tpfd := opens (Int.not_lt.mp failed)
    cases message : calls.message with
    | error ret => exact isOpen
    | ok msg =>
        simp only [message] at success ⊢
        split_ifs at success ⊢ with sendFailed
        · exact absurd success (Int.not_le.mpr sendFailed)
        · unfold ldtNlGetret at success
          split_ifs at success with closed
          · have negative : ¬ (0 : Int) ≤ RERR_NOT_AVAILABLE := by decide
            exact absurd success negative
          · exact Int.not_lt.mp closed

/-- A connection that is asked for is there. -/
theorem Tidy.ask {result : Int × Library} (tidy : Tidy result.2)
    (success : 0 ≤ result.1 → 0 ≤ result.2.tpfd) : Tidy (ToolConnection.ask result) := by
  unfold ToolConnection.ask
  by_cases failed : result.1 < 0
  · rw [if_pos failed]
    exact tidy
  · rw [if_neg failed]
    refine ⟨⟨tidy.untaken, tidy.autoopen.trans tidy.owned, nofun, ?_⟩, rfl⟩
    intro closed
    exact absurd (success (Int.not_lt.mp failed)) (Int.not_le.mpr closed)

/-- The functions that wait close what they have opened on each of their ways out. -/
theorem Tidy.requestAndWait {library : Library} (tidy : Tidy library)
    (established failed : EvType) (calls : WaitCalls) :
    Tidy (ToolConnection.requestAndWait established failed library calls).2 := by
  have subscribed : Tidy (ToolConnection.ldtEventOpen library calls.subscribe).2 :=
    tidy.ldtSubscribe calls.subscribe
  unfold ToolConnection.requestAndWait
  generalize (ToolConnection.ldtEventOpen library calls.subscribe).2 = opened at subscribed
  obtain ⟨sound, stranded, refused⟩ := subscribed.command calls.request
  simp only
  generalize ToolConnection.command opened calls.request = result at sound stranded refused
  obtain ⟨ret, requested⟩ := result
  simp only at sound stranded refused ⊢
  by_cases negative : ret < 0
  · rw [if_pos negative]
    exact sound.ldtMayclose calls.close
  · rw [if_neg negative]
    have notStranded : ¬ Strands opened calls.request := fun strands =>
      negative (refused strands)
    have requestedTidy : Tidy requested := by
      refine { sound with owned := ?_ }
      rw [← Bool.not_eq_true, stranded]
      exact notStranded
    have reported : Sound (ToolConnection.command requested calls.report).2 :=
      (requestedTidy.command calls.report).1
    by_cases returns : (!calls.wait) = true
    · rw [if_pos returns]
      exact requestedTidy
    · rw [if_neg returns]
      cases ldtWaitifaceev requested calls.waited with
      | error ret =>
          simp only
          split_ifs
          · exact sound.ldtMayclose calls.close
          · exact reported.ldtMayclose calls.close
      | ok evtype =>
          simp only
          split_ifs
          · exact sound.ldtMayclose calls.close
          · exact sound.ldtMayclose calls.close
          · apply Sound.ldtMayclose
            split
            · exact reported
            · exact reported
            · exact reported
            · exact reported
            · exact sound

/-- Each call keeps the connection of the caller unless it is a command that cannot send
its message through a connection of its own. -/
theorem Tidy.perform {library : Library} (tidy : Tidy library) {label : Label}
    (sends : Sends library label) : Tidy (ToolConnection.perform library label) := by
  cases label with
  | ldtOpen gopen => exact Tidy.ask (tidy.ldtOpen gopen) ldtOpen_open
  | ldtEventOpen calls => exact Tidy.ask (tidy.ldtSubscribe calls) ldtSubscribe_open
  | ldtClose close => exact tidy.ldtClose close
  | ldtEventClose close => exact tidy.ldtClose close
  | command calls =>
      obtain ⟨sound, stranded, -⟩ := tidy.command calls
      have notStranded : ¬ (ToolConnection.command library calls).2.onlyImplicit = true :=
        fun left => sends (stranded.mp left)
      exact { sound with owned := Bool.not_eq_true _ ▸ notStranded }
  | ldtTunSetpeer calls => exact tidy.requestAndWait _ _ calls
  | ldtTunServerstart calls => exact tidy.requestAndWait _ _ calls

theorem Tidy.sends_of_kept {library : Library} (tidy : Tidy library) {label : Label}
    (kept : Kept (ToolConnection.perform library label)) : Sends library label := by
  cases label with
  | command calls =>
      obtain ⟨-, stranded, -⟩ := tidy.command calls
      intro strands
      have leftOpen := stranded.mpr strands
      exact absurd kept.2 (by
        simp only [ToolConnection.perform, leftOpen, Bool.true_eq_false, not_false_eq_true])
  | ldtOpen | ldtEventOpen | ldtClose | ldtEventClose | ldtTunSetpeer | ldtTunServerstart =>
      trivial

/-- After every call no connection that the caller had asked for was closed by a command
and none is left that a command has opened for itself, if and only if each command that
opens a connection for itself can send its message through it. -/
theorem kept_iff_sends (calls : List Label) :
    (∀ earlier, earlier <+: calls → ∀ library, run step initial earlier = some library →
        Kept library) ↔ Guarded step Sends initial calls := by
  rw [forall_reached_iff]
  have start : Kept initial := ⟨rfl, rfl⟩
  have tidyStep : ∀ {library label next}, Sends library label → Tidy library →
      step library label = some next → Tidy next := by
    intro library label next sends tidy stepped
    rw [← Option.some.inj stepped]
    exact tidy.perform sends
  constructor
  · rintro ⟨-, kept⟩
    refine guarded_of_guarded ?_ ?_ kept tidy_initial
    · intro library label next kept tidy stepped
      rw [← Option.some.inj stepped]
      exact tidy.perform (tidy.sends_of_kept (kept _ rfl))
    · intro library label kept tidy
      exact tidy.sends_of_kept (kept _ rfl)
  · intro sends
    refine ⟨start, guarded_of_guarded tidyStep ?_ sends tidy_initial⟩
    intro library label sends tidy next stepped
    have nextTidy := tidyStep sends tidy stepped
    exact ⟨nextTidy.untaken, nextTidy.owned⟩

/-- A command whose message could not be sent leaves its connection, the caller asks for
it, and the next command closes it. -/
theorem not_kept_after_failed_send :
    ∃ library, run step initial
        [.command ⟨.ok [1], 3, -5, 0, 0⟩, .ldtOpen 3, .command ⟨.ok [1], 3, 20, 0, 0⟩] =
          some library ∧
      library.taken = true ∧ library.tpfd = -1 ∧ ¬ Kept library := by
  refine ⟨_, rfl, rfl, rfl, ?_⟩
  decide

end Tunprox.ToolConnection
