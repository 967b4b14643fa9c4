import Tunprox.Netlink
import Tunprox.NetlinkMessage

/-!
# Replies of the kernel module

`send_info` cuts the data of a reply into attributes of 4096 bytes.  `ldt_getinfo` of the
tool walks over the attributes of the message twice, first for the result of the command,
then to glue the data together, at the front of the very buffer that holds the message.
The walk of a loop that does not advance never ends.
-/

namespace Tunprox.NetlinkReply

open Errno ByteBuffer NetlinkAttribute NetlinkMessage Netlink

def CHUNKSZ : Nat := 4096

def LDT_CMD_SEND_INFO : Nat := 16

def LDT_CMD_SEND_EVENT : Nat := 17

def LDT_CMD_SEND_INFO_ATTR_RET : Nat := 1

def LDT_CMD_SEND_INFO_ATTR_INFO : Nat := 2

def RERR_SERVER : Int := -25

def RERR_INVALID_CMD : Int := -50

/-- The loop of `send_info` over the data, which is not empty, and the attribute after
it. -/
def putChunks (skb : MsgSkb) (s : List UInt8) : Except Int MsgSkb :=
  if CHUNKSZ < s.length then
    match nlaPut skb LDT_CMD_SEND_INFO_ATTR_INFO (s.take CHUNKSZ) with
    | .error ret => .error ret
    | .ok next => putChunks next (s.drop CHUNKSZ)
  else nlaPut skb LDT_CMD_SEND_INFO_ATTR_INFO s
termination_by s.length
decreasing_by
  rw [List.length_drop]
  unfold CHUNKSZ at *
  omega

/-- The first two lines of `send_info`: the data that is sent, of which there are `len`
bytes, or those of a string. -/
def infoData (data : Option (List UInt8)) (len : Nat) : Option (List UInt8) :=
  data.map fun data => if len = 0 then data.take (strlen data + 1) else data.take len

/-- The argument of `genlmsg_new`, which is a number of 32 bits. -/
def infoRoom (len : Nat) : Nat :=
  (len + len / CHUNKSZ * 4 + 128) % 2 ^ 32

/-- `send_info` up to the call of `genlmsg_unicast`: the message. -/
def sendInfo (family : Family) (seq pid : Nat) (rval : Int) (data : Option (List UInt8))
    (len : Nat) (alloc : Bool) : Except Int (List UInt8) :=
  let data := infoData data len
  match genlmsgNew (infoRoom (data.getD []).length) alloc with
  | none => .error (-ENOMEM)
  | some skb =>
      match genlmsgPut skb pid seq family LDT_CMD_SEND_INFO with
      | none => .error (-ENOMEM)
      | some skb =>
          match nlaPutU32 skb LDT_CMD_SEND_INFO_ATTR_RET rval.natAbs with
          | .error ret => .error ret
          | .ok skb =>
              match data with
              | none => .ok (genlmsgEnd skb)
              | some data =>
                  match putChunks skb data with
                  | .error ret => .error ret
                  | .ok skb => .ok (genlmsgEnd skb)

/-- What the first walk over the attributes finds. -/
structure Scan where
  ret : Option Int
  hasdata : Bool

/-- The `switch` of the first walk, on the attribute of the type `id`. -/
def scanOne (buf : List UInt8) (ptr id : Nat) (scan : Scan) : Option Scan :=
  if id = LDT_CMD_SEND_INFO_ATTR_RET then
    (loadNumber buf (fnlGetattrdata ptr) 4).map fun kret =>
      { scan with ret := some (toInt32 kret) }
  else if id = LDT_CMD_SEND_INFO_ATTR_INFO then some { scan with hasdata := true }
  else some scan

/-- The first walk of `ldt_getinfo`. -/
def scanInfo : Nat → List UInt8 → Nat → Scan → Option Scan
  | 0, buf, ptr, scan => if ptr < buf.length then none else some scan
  | fuel + 1, buf, ptr, scan =>
      if ptr < buf.length then do
        let id ← fnlGetattrid buf ptr
        let seen ← scanOne buf ptr id scan
        let next ← fnlGetnextattr buf ptr
        scanInfo fuel buf next seen
      else some scan

/-- A `memmove` within the buffer, and the offset of the first attribute not yet read. -/
structure Move where
  target : Nat
  count : Nat
  unread : Nat

/-- The buffer with the data moved to its front so far. -/
structure Compaction where
  buf : List UInt8
  xptr : Nat
  moves : List Move

/-- The `switch` of the second walk, on the attribute of the type `id` and length `len`. -/
def compactOne (ptr id : Nat) (len : Int) (next : Nat) (state : Compaction) :
    Option Compaction :=
  if id = LDT_CMD_SEND_INFO_ATTR_INFO then
    -- a negative length is a huge one for `memmove`
    if len < 0 then none
    else
      (memmove state.buf state.xptr (fnlGetattrdata ptr) len.toNat).map fun buf =>
        { buf := buf
          xptr := state.xptr + len.toNat
          moves := state.moves ++ [⟨state.xptr, len.toNat, next⟩] }
  else some state

/-- The second walk of `ldt_getinfo`. -/
def compactInfo : Nat → Nat → Compaction → Option Compaction
  | 0, ptr, state => if ptr < state.buf.length then none else some state
  | fuel + 1, ptr, state =>
      if ptr < state.buf.length then do
        let id ← fnlGetattrid state.buf ptr
        let len ← fnlGetattrlen state.buf ptr
        let next ← fnlGetnextattr state.buf ptr
        let moved ← compactOne ptr id len next state
        compactInfo fuel next moved
      else some state

/-- What `ldt_getinfo` returns: its result, `*rval`, `errno` if it is set, `*data` up to
its allocated end, `*dlen`, and the moves within the buffer. -/
structure InfoReply where
  ret : Int
  rval : Option Int
  errno : Option Int
  data : Option (List UInt8)
  dlen : Nat
  moves : List Move

/-- A reply without data. -/
def plainReply (ret : Int) (rval errno : Option Int) : InfoReply where
  ret := ret
  rval := rval
  errno := errno
  data := none
  dlen := 0
  moves := []

/-- `ldt_getinfo` on a message of type `NLMSG_ERROR`. -/
def getinfoError (buf : List UInt8) : Option InfoReply := do
  let cmd ← fnlGetcmd buf
  if (cmd : Int) < NLMSGERR_LENGTH then some (plainReply RERR_SYSTEM none none)
  else do
    let error ← loadNumber buf NLMSG_HDRLEN 4
    some (plainReply RERR_OK (some (-toInt32 error)) (some (-toInt32 error)))

/-- `ldt_getinfo` on a message of `send_info`; `wanted` tells whether the data is asked
for. -/
def getinfoInfo (wanted : Bool) (buf : List UInt8) : Option InfoReply := do
  let scan ← scanInfo buf.length buf (fnlGetmsgdata 0) ⟨none, false⟩
  let rval := if scan.ret.isNone && scan.hasdata then some 0 else scan.ret
  if scan.hasdata && wanted then do
    let state ← compactInfo buf.length (fnlGetmsgdata 0) ⟨buf, 0, []⟩
    let ended ← store state.buf state.xptr [0]
    some { plainReply RERR_OK rval none with
      data := some (ended.take (state.xptr + 1))
      dlen := state.xptr
      moves := state.moves }
  else some (plainReply RERR_OK rval none)

/-- `ldt_getinfo` on what `fnl_recv` returns, call by call.  It gives nothing if it waits
for another message, reads outside of one, or does not end. -/
def ldtGetinfo (wanted : Bool) : List (Except Int (List UInt8)) → Option InfoReply
  | [] => none
  | .error ret :: _ => some (plainReply ret none none)
  | .ok buf :: later => do
      -- the length goes through an `int`
      if toInt32 (buf.length % 2 ^ 32) < 0 then
        some (plainReply (toInt32 (buf.length % 2 ^ 32)) none none)
      else if buf.length = 0 then ldtGetinfo wanted later
      else do
        let type ← fnlGetmsgtype buf
        if type = NLMSG_ERROR then getinfoError buf
        else do
          let cmd ← fnlGetcmd buf
          if cmd = LDT_CMD_SEND_EVENT then ldtGetinfo wanted later
          else if cmd ≠ LDT_CMD_SEND_INFO then some (plainReply RERR_INVALID_CMD none none)
          else getinfoInfo wanted buf

/-- The last part of `ldt_nl_getret` and `ldt_nl_getanswer`: the result of the command,
where `stack` is what `rval` holds if nothing is stored to it. -/
def checkRval (reply : InfoReply) (stack : Int) : InfoReply :=
  if reply.ret < 0 then reply
  else
    let rval := reply.rval.getD stack
    if rval ≠ 0 then { reply with ret := RERR_SYSTEM, errno := some rval.natAbs }
    else { reply with ret := RERR_OK }

/-- `ldt_nl_getret` -/
def ldtNlGetret (received : List (Except Int (List UInt8))) (stack : Int) :
    Option InfoReply :=
  (ldtGetinfo false received).map fun reply => checkRval reply stack

/-- `ldt_nl_getanswer` -/
def ldtNlGetanswer (received : List (Except Int (List UInt8))) (stack : Int) :
    Option InfoReply :=
  (ldtGetinfo true received).map fun reply =>
    let checked := checkRval reply stack
    if checked.ret = RERR_OK ∧ checked.data = none then { checked with ret := RERR_SERVER }
    else checked

/-- `ldt_nl_getanswer` returns as it is what the check of the result makes a failure. -/
theorem ldtNlGetanswer_of_failed {received : List (Except Int (List UInt8))}
    {reply : InfoReply} {stack : Int} (info : ldtGetinfo true received = some reply)
    (failed : (checkRval reply stack).ret < 0) :
    ldtNlGetanswer received stack = some (checkRval reply stack) := by
  have other : (checkRval reply stack).ret ≠ RERR_OK := failed.ne
  simp only [ldtNlGetanswer, info, Option.map_some, other, false_and, if_false]

/-- An attribute with a piece of the data. -/
def infoAttr (piece : List UInt8) (small : piece.length ≤ CHUNKSZ) : Attr where
  id := LDT_CMD_SEND_INFO_ATTR_INFO
  payload := piece
  id_lt := by decide
  length_lt := by
    unfold CHUNKSZ at small
    unfold NLA_HDRLEN
    omega

/-- The attribute with the result of a command. -/
def retAttr (xval : Nat) : Attr where
  id := LDT_CMD_SEND_INFO_ATTR_RET
  payload := littleEndian 4 xval
  id_lt := by decide
  length_lt := by simp [NLA_HDRLEN]

theorem length_infoAttr {piece : List UInt8} (small : piece.length ≤ CHUNKSZ) :
    (infoAttr piece small).bytes.length ≤ piece.length + 7 := by
  have aligned := nlaAlign_lt (piece.length + NLA_HDRLEN)
  rw [length_bytes]
  simp only [infoAttr]
  unfold NLA_HDRLEN at *
  omega

theorem length_infoAttr_of_full {piece : List UInt8} (full : piece.length = CHUNKSZ) :
    (infoAttr piece full.le).bytes.length = CHUNKSZ + 4 := by
  rw [length_bytes, infoAttr, full]
  rfl

/-- The loop of `send_info` fits into a buffer with four bytes for each full piece of the
data, and seven for the header and the padding of the last one. -/
theorem putChunks_eq (skb : MsgSkb) {data : List UInt8}
    (room : skb.bytes.length + data.length + data.length / CHUNKSZ * 4 + 7 ≤ skb.room) :
    ∃ attrs : List Attr,
      putChunks skb data = .ok { skb with bytes := skb.bytes ++ encode attrs } ∧
        (∀ attr ∈ attrs, attr.id = LDT_CMD_SEND_INFO_ATTR_INFO) ∧ attrs ≠ [] ∧
          attrs.flatMap Attr.payload = data ∧
            (encode attrs).length ≤ data.length + data.length / CHUNKSZ * 4 + 7 := by
  fun_induction putChunks skb data with
  | case1 skb s long ret failed =>
      have full : (s.take CHUNKSZ).length = CHUNKSZ := List.length_take_of_le long.le
      have size := length_infoAttr_of_full full
      have put := nlaPut_of_fits skb (infoAttr (s.take CHUNKSZ) full.le)
        (show skb.bytes.length + _ ≤ skb.room by omega)
      rw [infoAttr, failed] at put
      contradiction
  | case2 skb s long next put ih =>
      have full : (s.take CHUNKSZ).length = CHUNKSZ := List.length_take_of_le long.le
      have size := length_infoAttr_of_full full
      have attrPut := nlaPut_of_fits skb (infoAttr (s.take CHUNKSZ) full.le)
        (show skb.bytes.length + _ ≤ skb.room by omega)
      simp only [infoAttr] at attrPut
      rw [put, Except.ok.injEq] at attrPut
      subst attrPut
      have pieces : s.length / CHUNKSZ = (s.length - CHUNKSZ) / CHUNKSZ + 1 := by
        unfold CHUNKSZ at *
        omega
      simp only [infoAttr] at size
      simp only [List.length_append, List.length_drop, size] at ih
      obtain ⟨attrs, rest, ids, -, payloads, total⟩ := ih (by omega)
      refine ⟨infoAttr (s.take CHUNKSZ) full.le :: attrs, ?_, ?_, by simp, ?_, ?_⟩
      · rw [rest, encode_cons, ← List.append_assoc]
        rfl
      · intro attr member
        rcases List.mem_cons.mp member with rfl | member
        · rfl
        · exact ids attr member
      · rw [List.flatMap_cons, payloads]
        exact List.take_append_drop CHUNKSZ s
      · rw [encode_cons, List.length_append, infoAttr, size]
        omega
  | case3 skb s short =>
      have small : s.length ≤ CHUNKSZ := Nat.le_of_not_lt short
      have size := length_infoAttr small
      have put := nlaPut_of_fits skb (infoAttr s small)
        (show skb.bytes.length + _ ≤ skb.room by omega)
      refine ⟨[infoAttr s small], ?_, by simp [infoAttr], by simp, by simp [infoAttr], ?_⟩
      · rw [encode_cons, encode_nil, List.append_nil]
        exact put
      · rw [encode_cons, encode_nil, List.append_nil]
        omega

theorem length_retAttr (xval : Nat) : (retAttr xval).bytes.length = 8 := by
  rw [length_bytes]
  simp only [retAttr, length_littleEndian]
  rfl

/-- The buffer with the header and the result of the command. -/
theorem putRet_eq (family : Family) (seq pid : Nat) {room : Nat} (rval : Int)
    (enough : NLMSG_HDRLEN + GENL_HDRLEN + 8 ≤ room) :
    genlmsgPut ⟨room, []⟩ pid seq family LDT_CMD_SEND_INFO =
        some ⟨room,
          messageHdr family seq pid LDT_CMD_SEND_INFO (NLMSG_HDRLEN + GENL_HDRLEN)⟩ ∧
      nlaPutU32
          ⟨room, messageHdr family seq pid LDT_CMD_SEND_INFO (NLMSG_HDRLEN + GENL_HDRLEN)⟩
          LDT_CMD_SEND_INFO_ATTR_RET rval.natAbs =
        .ok ⟨room,
          messageHdr family seq pid LDT_CMD_SEND_INFO (NLMSG_HDRLEN + GENL_HDRLEN) ++
            encode [retAttr rval.natAbs]⟩ := by
  constructor
  · rw [genlmsgPut, if_neg]
    · rfl
    · simp only [List.length_nil]
      omega
  · rw [encode_cons, encode_nil, List.append_nil]
    apply nlaPut_of_fits
      ⟨room, messageHdr family seq pid LDT_CMD_SEND_INFO (NLMSG_HDRLEN + GENL_HDRLEN)⟩
      (retAttr rval.natAbs)
    rw [length_messageHdr, length_retAttr]
    exact enough

/-- The attributes that carry the data. -/
structure Carries (attrs : List Attr) (data : List UInt8) : Prop where
  ids : ∀ attr ∈ attrs, attr.id = LDT_CMD_SEND_INFO_ATTR_INFO
  nonempty : attrs ≠ []
  payloads : attrs.flatMap Attr.payload = data
  length_le : (encode attrs).length ≤ data.length + data.length / CHUNKSZ * 4 + 7

/-- The message of `send_info` fits into the buffer, as long as its size does not wrap. -/
theorem sendInfo_eq (family : Family) (seq pid : Nat) (rval : Int)
    {data sent : List UInt8} {len : Nat} (dataEq : infoData (some data) len = some sent)
    (bounded : sent.length + sent.length / CHUNKSZ * 4 + 128 < 2 ^ 32) :
    ∃ attrs, Carries attrs sent ∧
      sendInfo family seq pid rval (some data) len true =
        .ok (message family seq pid LDT_CMD_SEND_INFO (retAttr rval.natAbs :: attrs)) := by
  have roomEq : infoRoom sent.length = sent.length + sent.length / CHUNKSZ * 4 + 128 :=
    Nat.mod_eq_of_lt bounded
  have aligned := le_nlaAlign (GENL_HDRLEN + infoRoom sent.length)
  have enough : NLMSG_HDRLEN + GENL_HDRLEN + 8 ≤
      NLMSG_HDRLEN + nlaAlign (GENL_HDRLEN + infoRoom sent.length) := by
    omega
  obtain ⟨headed, returned⟩ := putRet_eq family seq pid rval enough
  have room : (messageHdr family seq pid LDT_CMD_SEND_INFO (NLMSG_HDRLEN + GENL_HDRLEN) ++
      encode [retAttr rval.natAbs]).length + sent.length + sent.length / CHUNKSZ * 4 + 7 ≤
        NLMSG_HDRLEN + nlaAlign (GENL_HDRLEN + infoRoom sent.length) := by
    rw [List.length_append, length_messageHdr, encode_cons, encode_nil, List.append_nil,
      length_retAttr]
    omega
  obtain ⟨attrs, put, ids, nonempty, payloads, length_le⟩ := putChunks_eq
    ⟨NLMSG_HDRLEN + nlaAlign (GENL_HDRLEN + infoRoom sent.length), _⟩ room
  refine ⟨attrs, ⟨ids, nonempty, payloads, length_le⟩, ?_⟩
  simp only [sendInfo, dataEq, Option.getD_some, genlmsgNew, if_true, headed, returned, put]
  rw [List.append_assoc, ← encode_append, genlmsgEnd_eq]
  rfl

/-- What the first walk makes of an attribute. -/
def scanAttr (scan : Scan) (attr : Attr) : Scan :=
  if attr.id = LDT_CMD_SEND_INFO_ATTR_RET then
    { scan with ret := some (toInt32 (ofLittleEndian attr.payload)) }
  else if attr.id = LDT_CMD_SEND_INFO_ATTR_INFO then { scan with hasdata := true }
  else scan

/-- The first walk sees every attribute once, in order. -/
theorem scanInfo_encode {buf : List UInt8} {attrs : List Attr} {fuel ptr : Nat} (scan : Scan)
    (numbers : ∀ attr ∈ attrs, attr.id = LDT_CMD_SEND_INFO_ATTR_RET → attr.payload.length = 4)
    (inside : ptr ≤ buf.length) (split : buf.drop ptr = encode attrs)
    (enough : (encode attrs).length ≤ fuel) :
    scanInfo fuel buf ptr scan = some (attrs.foldl scanAttr scan) := by
  have rest : (buf.drop ptr).length = buf.length - ptr := List.length_drop
  induction attrs generalizing fuel ptr scan with
  | nil =>
      rw [split, encode_nil, List.length_nil] at rest
      have ended : ¬ ptr < buf.length := by omega
      cases fuel with
      | zero => rw [scanInfo, if_neg ended, List.foldl_nil]
      | succ fuel => rw [scanInfo, if_neg ended, List.foldl_nil]
  | cons attr attrs ih =>
      have reads := readsAttr_of_drop inside split
      have aligned := le_nlaAlign (attr.payload.length + NLA_HDRLEN)
      rw [split, encode_cons, List.length_append, length_bytes] at rest
      rw [encode_cons, List.length_append, length_bytes] at enough
      have headed : 0 < NLA_HDRLEN := by decide
      cases fuel with
      | zero => omega
      | succ fuel =>
          have here : ptr < buf.length := by omega
          have seen : scanOne buf ptr attr.id scan = some (scanAttr scan attr) := by
            unfold scanOne scanAttr
            split
            · rename_i isRet
              have payload := reads.payload
              rw [numbers attr List.mem_cons_self isRet] at payload
              rw [fnlGetattrdata, loadNumber, payload]
              rfl
            · split
              · rfl
              · rfl
          simp only [scanInfo, if_pos here, fnlGetattrid_eq reads, fnlGetnextattr_eq reads,
            Option.bind_eq_bind, Option.bind_some, seen, List.foldl_cons]
          apply ih
          · exact fun other member => numbers other (List.mem_cons_of_mem _ member)
          · exact reads.inside
          · exact reads.next
          · omega
          · exact List.length_drop

/-- The data in the attributes of the type. -/
def infoBytes (attrs : List Attr) : List UInt8 :=
  (attrs.filter fun attr => attr.id = LDT_CMD_SEND_INFO_ATTR_INFO).flatMap Attr.payload

theorem infoBytes_cons (attr : Attr) (attrs : List Attr) :
    infoBytes (attr :: attrs) = infoBytes [attr] ++ infoBytes attrs := by
  unfold infoBytes
  rw [← List.flatMap_append, ← List.filter_append]
  rfl

/-- A move writes the data of the attribute behind that of the earlier ones; what it
overwrites lies before the next attribute. -/
theorem compactOne_eq {attr : Attr} {out junk after : List UInt8} (moves : List Move)
    (gap : NLA_HDRLEN ≤ junk.length)
    (reads : ReadsAttr (out ++ junk ++ (attr.bytes ++ after)) (out.length + junk.length) attr
      after) :
    ∃ between later,
      compactOne (out.length + junk.length) attr.id attr.payload.length
          (out.length + junk.length + attr.bytes.length)
          ⟨out ++ junk ++ (attr.bytes ++ after), out.length, moves⟩ =
        some ⟨out ++ infoBytes [attr] ++ between ++ after,
          (out ++ infoBytes [attr]).length, moves ++ later⟩ ∧
        NLA_HDRLEN ≤ between.length ∧
          (out ++ infoBytes [attr]).length + between.length =
            out.length + junk.length + attr.bytes.length ∧
            ∀ move ∈ later, move.target + move.count ≤ move.unread := by
  have size := length_bytes attr
  have aligned := le_nlaAlign (attr.payload.length + NLA_HDRLEN)
  by_cases isInfo : attr.id = LDT_CMD_SEND_INFO_ATTR_INFO
  · have bytesEq : infoBytes [attr] = attr.payload := by
      simp [infoBytes, isInfo]
    have room : attr.payload.length ≤ (junk ++ attr.bytes).length := by
      rw [List.length_append]
      omega
    have stored : store (out ++ junk ++ (attr.bytes ++ after)) out.length attr.payload =
        some (out ++ attr.payload ++ (junk ++ attr.bytes).drop attr.payload.length ++
          after) := by
      have regrouped : out ++ junk ++ (attr.bytes ++ after) =
          out ++ (junk ++ attr.bytes ++ after) := by
        simp only [List.append_assoc]
      rw [regrouped, store_append, List.drop_append_of_le_length room, ← List.append_assoc]
      rw [List.length_append]
      omega
    refine ⟨(junk ++ attr.bytes).drop attr.payload.length,
      [⟨out.length, attr.payload.length, out.length + junk.length + attr.bytes.length⟩],
      ?_, ?_, ?_, ?_⟩
    · have nonneg : ¬ (attr.payload.length : Int) < 0 := by omega
      rw [bytesEq, compactOne, if_pos isInfo, if_neg nonneg, Int.toNat_natCast, memmove,
        fnlGetattrdata, reads.payload, Option.bind_some]
      simp only [stored, Option.map_some, List.length_append]
    · rw [List.length_drop, List.length_append]
      omega
    · rw [bytesEq, List.length_append, List.length_drop]
      simp only [List.length_append] at room ⊢
      omega
    · intro move member
      obtain rfl := List.mem_singleton.mp member
      simp only
      omega
  · have bytesEq : infoBytes [attr] = [] := by
      simp [infoBytes, isInfo]
    refine ⟨junk ++ attr.bytes, [], ?_, ?_, ?_, by simp⟩
    · rw [bytesEq, compactOne, if_neg isInfo]
      simp only [List.append_nil, List.append_assoc]
    · rw [List.length_append]
      omega
    · rw [bytesEq, List.append_nil, List.length_append]
      omega

/-- The second walk: the data goes to the front of the buffer, and each move ends before
the first attribute that has not been read. -/
theorem compactInfo_encode {attrs : List Attr} {fuel : Nat} (out : List UInt8)
    {junk : List UInt8} (moves : List Move) (gap : NLA_HDRLEN ≤ junk.length)
    (enough : (encode attrs).length ≤ fuel) :
    ∃ after later,
      compactInfo fuel (out.length + junk.length)
          ⟨out ++ junk ++ encode attrs, out.length, moves⟩ =
        some ⟨out ++ infoBytes attrs ++ after, out.length + (infoBytes attrs).length,
          moves ++ later⟩ ∧
        NLA_HDRLEN ≤ after.length ∧ ∀ move ∈ later, move.target + move.count ≤ move.unread := by
  induction attrs generalizing fuel out junk moves with
  | nil =>
      have ended : ¬ out.length + junk.length < (out ++ junk ++ encode []).length := by
        simp
      refine ⟨junk, [], ?_, gap, by simp⟩
      cases fuel with
      | zero => simp [compactInfo, infoBytes]
      | succ fuel => simp [compactInfo, infoBytes]
  | cons attr attrs ih =>
      have split : (out ++ junk ++ encode (attr :: attrs)).drop (out.length + junk.length) =
          encode (attr :: attrs) :=
        drop_append_of_length (by rw [List.length_append])
      have inside : out.length + junk.length ≤
          (out ++ junk ++ encode (attr :: attrs)).length := by
        rw [List.length_append, List.length_append]
        omega
      have reads := readsAttr_of_drop inside split
      have aligned := le_nlaAlign (attr.payload.length + NLA_HDRLEN)
      rw [encode_cons, List.length_append, length_bytes] at enough
      have headed : 0 < NLA_HDRLEN := by decide
      cases fuel with
      | zero => omega
      | succ fuel =>
          have here : out.length + junk.length <
              (out ++ junk ++ encode (attr :: attrs)).length := by
            rw [List.length_append, List.length_append, encode_cons, List.length_append,
              length_bytes]
            omega
          simp only [compactInfo, if_pos here, fnlGetattrid_eq reads, fnlGetattrlen_eq reads,
            fnlGetnextattr_eq reads, Option.bind_eq_bind, Option.bind_some, ← length_bytes]
          rw [encode_cons] at reads
          obtain ⟨between, moved, one, headed, position, safe⟩ :=
            compactOne_eq moves gap reads
          rw [encode_cons, one, Option.bind_some, ← position]
          obtain ⟨after, later, rest, left, laterSafe⟩ :=
            ih (out ++ infoBytes [attr]) (moves ++ moved) headed
              (show (encode attrs).length ≤ fuel by omega)
          refine ⟨after, moved ++ later, ?_, left, ?_⟩
          · have combined := infoBytes_cons attr attrs
            rw [rest]
            simp only [combined, List.append_assoc, List.length_append, Nat.add_assoc]
          · intro move member
            rcases List.mem_append.mp member with first | second
            · exact safe move first
            · exact laterSafe move second

/-- The data is at the front of the buffer that `ldt_nl_getanswer` returns. -/
structure Returned (sent : List UInt8) (reply : InfoReply) : Prop where
  ret : reply.ret = RERR_OK
  data : reply.data = some (sent ++ [0])
  dlen : reply.dlen = sent.length
  moves : ∀ move ∈ reply.moves, move.target + move.count ≤ move.unread

/-- The attributes of the data leave the result alone. -/
theorem foldl_scanAttr {attrs : List Attr}
    (ids : ∀ attr ∈ attrs, attr.id = LDT_CMD_SEND_INFO_ATTR_INFO) (nonempty : attrs ≠ [])
    (scan : Scan) : attrs.foldl scanAttr scan = { scan with hasdata := true } := by
  have one {attr : Attr} (member : attr ∈ attrs) (before : Scan) :
      scanAttr before attr = { before with hasdata := true } := by
    unfold scanAttr
    rw [ids attr member, if_neg (by decide), if_pos rfl]
  induction attrs generalizing scan with
  | nil => exact absurd rfl nonempty
  | cons attr attrs ih =>
      rw [List.foldl_cons, one List.mem_cons_self]
      cases attrs with
      | nil => rfl
      | cons other attrs =>
          exact ih (fun next member => ids next (List.mem_cons_of_mem _ member))
            (List.cons_ne_nil _ _) { scan with hasdata := true }
            (fun member => one (List.mem_cons_of_mem _ member))

theorem infoBytes_of_ids {attrs : List Attr}
    (ids : ∀ attr ∈ attrs, attr.id = LDT_CMD_SEND_INFO_ATTR_INFO) :
    infoBytes attrs = attrs.flatMap Attr.payload := by
  unfold infoBytes
  rw [List.filter_eq_self.mpr]
  intro attr member
  exact decide_eq_true (ids attr member)

section
variable (family : Family) (seq pid : Nat) {attrs : List Attr} {data : List UInt8}

/-- The second walk over the message of `send_info`, and the zero byte behind the data. -/
theorem compactInfo_message (rval : Nat) (carries : Carries attrs data) :
    let msg := message family seq pid LDT_CMD_SEND_INFO (retAttr rval :: attrs)
    ∃ state ended,
      compactInfo msg.length (fnlGetmsgdata 0) ⟨msg, 0, []⟩ = some state ∧
        store state.buf state.xptr [0] = some ended ∧ state.xptr = data.length ∧
          ended.take (state.xptr + 1) = data ++ [0] ∧
            ∀ move ∈ state.moves, move.target + move.count ≤ move.unread := by
  intro msg
  have dataEq : infoBytes (retAttr rval :: attrs) = data := by
    rw [infoBytes_cons, infoBytes_of_ids carries.ids, carries.payloads]
    rfl
  have enough : (encode (retAttr rval :: attrs)).length ≤ msg.length := by
    rw [length_message]
    omega
  have header := length_messageHdr family seq pid LDT_CMD_SEND_INFO
    (NLMSG_HDRLEN + GENL_HDRLEN + (encode (retAttr rval :: attrs)).length)
  obtain ⟨after, later, walked, left, safe⟩ :=
    compactInfo_encode [] [] (show NLA_HDRLEN ≤ _ by rw [header]; decide) enough
  rw [dataEq, List.nil_append, List.nil_append, List.length_nil, Nat.zero_add,
    Nat.zero_add, List.nil_append, header] at walked
  have room : ([0] : List UInt8).length ≤ after.length :=
    Nat.le_trans (by decide) left
  refine ⟨_, data ++ [0] ++ after.drop 1, walked, store_append room, rfl, ?_, safe⟩
  apply List.take_left'
  rw [List.length_append, List.length_singleton]

/-- What `ldt_getinfo` makes of the message of `send_info`, with data or without. -/
theorem ldtGetinfo_message (wanted : Bool) (rval : Nat)
    (later : List (Except Int (List UInt8)))
    (bounded : (message family seq pid LDT_CMD_SEND_INFO (retAttr rval :: attrs)).length <
      2 ^ 31) :
    ldtGetinfo wanted
        (.ok (message family seq pid LDT_CMD_SEND_INFO (retAttr rval :: attrs)) :: later) =
      getinfoInfo wanted
        (message family seq pid LDT_CMD_SEND_INFO (retAttr rval :: attrs)) := by
  have long := length_message family seq pid LDT_CMD_SEND_INFO (retAttr rval :: attrs)
  have headed : 0 < NLMSG_HDRLEN := by decide
  rw [ldtGetinfo, toInt32_mod_of_lt bounded, if_neg (by omega), if_neg (by omega),
    fnlGetmsgtype_message]
  simp only [Option.bind_eq_bind, Option.bind_some, if_neg family.id_ne_error]
  rw [fnlGetcmd_message _ _ _ _ (by decide)]
  simp only [Option.bind_some]
  rw [if_neg (by decide), if_neg (by decide)]

/-- The data of a successful command comes out of `ldt_nl_getanswer`. -/
theorem ldtNlGetanswer_message (carries : Carries attrs data)
    (later : List (Except Int (List UInt8))) (stack : Int)
    (bounded : (message family seq pid LDT_CMD_SEND_INFO (retAttr 0 :: attrs)).length <
      2 ^ 31) :
    ∃ reply,
      ldtNlGetanswer
          (.ok (message family seq pid LDT_CMD_SEND_INFO (retAttr 0 :: attrs)) :: later)
          stack = some reply ∧
        Returned data reply := by
  have scanned : scanInfo
      (message family seq pid LDT_CMD_SEND_INFO (retAttr 0 :: attrs)).length
      (message family seq pid LDT_CMD_SEND_INFO (retAttr 0 :: attrs)) (fnlGetmsgdata 0)
      ⟨none, false⟩ = some ⟨some 0, true⟩ := by
    rw [scanInfo_encode _ ?_ (fnlGetmsgdata_le family seq pid _) (drop_message ..)]
    · rw [List.foldl_cons, foldl_scanAttr carries.ids carries.nonempty]
      rfl
    · rw [length_message]
      omega
    · intro attr member isRet
      rcases List.mem_cons.mp member with rfl | member
      · exact length_littleEndian 4 0
      · rw [carries.ids attr member] at isRet
        contradiction
  obtain ⟨state, ended, walked, stored, dlen, taken, safe⟩ :=
    compactInfo_message family seq pid 0 carries
  have answered : getinfoInfo true
      (message family seq pid LDT_CMD_SEND_INFO (retAttr 0 :: attrs)) =
        some ⟨RERR_OK, some 0, none, some (data ++ [0]), data.length, state.moves⟩ := by
    rw [dlen] at stored taken
    rw [getinfoInfo, scanned]
    simp only [Option.bind_eq_bind, Option.bind_some, Option.isNone_some, Bool.false_and,
      Bool.and_self, if_true, walked, dlen, stored, taken]
    rfl
  refine ⟨⟨RERR_OK, some 0, none, some (data ++ [0]), data.length, state.moves⟩, ?_, rfl, rfl,
    rfl, safe⟩
  rw [ldtNlGetanswer, ldtGetinfo_message family seq pid true 0 later bounded, answered]
  rfl

/-- The message of `send_info` comes out of `ldt_nl_getanswer`, as long as its size fits an
`int`. -/
theorem ldtNlGetanswer_sendInfo {sent : List UInt8} {len : Nat}
    (dataEq : infoData (some data) len = some sent)
    (bounded : sent.length + sent.length / CHUNKSZ * 4 + 128 < 2 ^ 31)
    (later : List (Except Int (List UInt8))) (stack : Int) :
    ∃ msg reply, sendInfo family seq pid 0 (some data) len true = .ok msg ∧
      ldtNlGetanswer (.ok msg :: later) stack = some reply ∧ Returned sent reply := by
  obtain ⟨attrs, carries, built⟩ :=
    sendInfo_eq family seq pid 0 dataEq (bounded.trans (by decide))
  have size : (message family seq pid LDT_CMD_SEND_INFO (retAttr 0 :: attrs)).length <
      2 ^ 31 := by
    have total := carries.length_le
    rw [length_message, encode_cons, List.length_append, length_retAttr]
    unfold NLMSG_HDRLEN GENL_HDRLEN
    omega
  obtain ⟨reply, answered, returned⟩ :=
    ldtNlGetanswer_message family seq pid carries later stack size
  exact ⟨_, reply, built, answered, returned⟩

end

/-- The arguments `data` and `len` of `send_info` for the bytes that it shall send. -/
inductive InfoArgs : List UInt8 → Nat → List UInt8 → Prop where
  | buffer (sent after : List UInt8) (nonempty : 1 ≤ sent.length) :
      InfoArgs (sent ++ after) sent.length sent
  | string (sent : CStr) (after : List UInt8) :
      InfoArgs (sent.terminated ++ after) 0 sent.terminated

theorem infoData_of_infoArgs {data sent : List UInt8} {len : Nat}
    (args : InfoArgs data len sent) : infoData (some data) len = some sent := by
  cases args with
  | buffer after nonempty =>
      rw [infoData, Option.map_some, if_neg (by omega), List.take_left]
  | string string after =>
      have whole : string.terminated ++ after = string.bytes ++ 0 :: after := by
        simp [CStr.terminated]
      have length : strlen (string.terminated ++ after) + 1 = string.terminated.length := by
        rw [whole, strlen, cstring_append_zero, CStr.length_terminated]
      rw [infoData, Option.map_some, if_pos rfl, length, List.take_left]

/-- The data of up to 2^30 bytes that `send_info` takes comes back from
`ldt_nl_getanswer`, and `nla_put` always has room for it. -/
theorem returned_of_infoArgs (family : Family) (seq pid : Nat) {data sent : List UInt8} {len : Nat}
    (args : InfoArgs data len sent) (bounded : sent.length ≤ 2 ^ 30)
    (later : List (Except Int (List UInt8))) (stack : Int) :
    ∃ msg reply, sendInfo family seq pid 0 (some data) len true = .ok msg ∧
      ldtNlGetanswer (.ok msg :: later) stack = some reply ∧ Returned sent reply := by
  apply ldtNlGetanswer_sendInfo family seq pid (infoData_of_infoArgs args)
  unfold CHUNKSZ
  omega

def assignedFamily : Family where
  id := 30
  min_le := by decide
  id_lt := by decide

theorem returned_fullPieces :
    ∃ msg reply,
      sendInfo assignedFamily 7 1000 0 (some (List.replicate 8192 65 ++ [1, 2])) 8192 true =
          .ok msg ∧
        ldtNlGetanswer [.ok msg] 0 = some reply ∧
          Returned (List.replicate 8192 65) reply := by
  have length : (List.replicate 8192 (65 : UInt8)).length = 8192 := List.length_replicate
  have args := InfoArgs.buffer (List.replicate 8192 65) [1, 2] (by rw [length]; decide)
  rw [length] at args
  exact returned_of_infoArgs assignedFamily 7 1000 args (by rw [length]; decide) [] 0

end Tunprox.NetlinkReply
