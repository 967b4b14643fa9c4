import Tunprox.NetlinkAttribute
import Tunprox.SkBuff

/-!
# Generic-netlink messages as bytes

What the kernel's functions put into the buffer of a message, which has a limited room,
and what the functions of `fnl.c` read from a received one.  Pointers into a message are
offsets, and a read outside of it gives nothing.  The machine stores the low byte first.
-/

namespace Tunprox.NetlinkMessage

open Errno ByteBuffer NetlinkAttribute

def NLMSG_HDRLEN : Nat := 16

def GENL_HDRLEN : Nat := 4

def NLMSG_ERROR : Nat := 2

def NLMSG_MIN_TYPE : Nat := 16

def LDT_NL_VERSION : Nat := 3

/-- The number of a family, which the kernel assigns above those of control messages. -/
structure Family where
  id : Nat
  min_le : NLMSG_MIN_TYPE ≤ id
  id_lt : id < 2 ^ 16

theorem Family.id_ne_error (family : Family) : family.id ≠ NLMSG_ERROR := by
  have above := family.min_le
  unfold NLMSG_MIN_TYPE at above
  unfold NLMSG_ERROR
  omega

/-- `struct nlmsghdr` -/
def nlmsghdr (nlmsgLen nlmsgType nlmsgFlags nlmsgSeq nlmsgPid : Nat) : List UInt8 :=
  littleEndian 4 nlmsgLen ++ littleEndian 2 nlmsgType ++ littleEndian 2 nlmsgFlags ++
    littleEndian 4 nlmsgSeq ++ littleEndian 4 nlmsgPid

/-- `struct genlmsghdr` -/
def genlmsghdr (cmd version : Nat) : List UInt8 :=
  littleEndian 1 cmd ++ littleEndian 1 version ++ littleEndian 2 0

@[simp]
theorem length_nlmsghdr (nlmsgLen nlmsgType nlmsgFlags nlmsgSeq nlmsgPid : Nat) :
    (nlmsghdr nlmsgLen nlmsgType nlmsgFlags nlmsgSeq nlmsgPid).length = NLMSG_HDRLEN := by
  simp [nlmsghdr, NLMSG_HDRLEN]

@[simp]
theorem length_genlmsghdr (cmd version : Nat) :
    (genlmsghdr cmd version).length = GENL_HDRLEN := by
  simp [genlmsghdr, GENL_HDRLEN]

/-- The two headers of a message of the module. -/
def messageHdr (family : Family) (seq pid cmd nlmsgLen : Nat) : List UInt8 :=
  nlmsghdr nlmsgLen family.id 0 seq pid ++ genlmsghdr cmd LDT_NL_VERSION

@[simp]
theorem length_messageHdr (family : Family) (seq pid cmd nlmsgLen : Nat) :
    (messageHdr family seq pid cmd nlmsgLen).length = NLMSG_HDRLEN + GENL_HDRLEN := by
  simp [messageHdr]

/-- The `struct sk_buff` of a message: the bytes put into it and the size it has. -/
structure MsgSkb where
  room : Nat
  bytes : List UInt8

/-- `genlmsg_new`, where `alloc` tells whether there is memory. -/
def genlmsgNew (payload : Nat) (alloc : Bool) : Option MsgSkb :=
  if alloc then some ⟨NLMSG_HDRLEN + nlaAlign (GENL_HDRLEN + payload), []⟩ else none

/-- `genlmsg_put`; the length of the message is filled in at the end. -/
def genlmsgPut (skb : MsgSkb) (portid seq : Nat) (family : Family) (cmd : Nat) :
    Option MsgSkb :=
  if skb.room - skb.bytes.length < NLMSG_HDRLEN + GENL_HDRLEN then none
  else
    some { skb with
      bytes := skb.bytes ++ messageHdr family seq portid cmd (NLMSG_HDRLEN + GENL_HDRLEN) }

/-- `nla_put` -/
def nlaPut (skb : MsgSkb) (attrtype : Nat) (data : List UInt8) : Except Int MsgSkb :=
  if skb.room - skb.bytes.length < nlaAlign (data.length + NLA_HDRLEN) then .error (-EMSGSIZE)
  else .ok { skb with bytes := skb.bytes ++ attrBytes attrtype data }

/-- `nla_put_u32` -/
def nlaPutU32 (skb : MsgSkb) (attrtype value : Nat) : Except Int MsgSkb :=
  nlaPut skb attrtype (littleEndian 4 value)

/-- `genlmsg_end` of the only message in the buffer, and the bytes that are sent. -/
def genlmsgEnd (skb : MsgSkb) : List UInt8 :=
  littleEndian 4 skb.bytes.length ++ skb.bytes.drop 4

theorem nlaPut_of_fits (skb : MsgSkb) (attr : Attr)
    (fits : skb.bytes.length + attr.bytes.length ≤ skb.room) :
    nlaPut skb attr.id attr.payload = .ok { skb with bytes := skb.bytes ++ attr.bytes } := by
  rw [length_bytes] at fits
  rw [nlaPut, if_neg (by omega), Attr.bytes]

/-- The message with the attributes. -/
def message (family : Family) (seq pid cmd : Nat) (attrs : List Attr) : List UInt8 :=
  messageHdr family seq pid cmd (NLMSG_HDRLEN + GENL_HDRLEN + (encode attrs).length) ++
    encode attrs

theorem length_message (family : Family) (seq pid cmd : Nat) (attrs : List Attr) :
    (message family seq pid cmd attrs).length =
      NLMSG_HDRLEN + GENL_HDRLEN + (encode attrs).length := by
  simp only [message, List.length_append, length_messageHdr]

theorem genlmsgEnd_eq (room : Nat) (family : Family) (seq pid cmd : Nat)
    (attrs : List Attr) :
    genlmsgEnd ⟨room, messageHdr family seq pid cmd (NLMSG_HDRLEN + GENL_HDRLEN) ++
      encode attrs⟩ = message family seq pid cmd attrs := by
  have total : (messageHdr family seq pid cmd (NLMSG_HDRLEN + GENL_HDRLEN) ++
      encode attrs).length = NLMSG_HDRLEN + GENL_HDRLEN + (encode attrs).length := by
    rw [List.length_append, length_messageHdr]
  rw [genlmsgEnd, total]
  simp only [message, messageHdr, nlmsghdr, List.append_assoc]
  rw [drop_append_of_length (length_littleEndian 4 _)]

/-- `fnl_getmsgtype` -/
def fnlGetmsgtype (msg : List UInt8) : Option Nat :=
  loadNumber msg 4 2

/-- `fnl_getcmd` -/
def fnlGetcmd (msg : List UInt8) : Option Nat :=
  loadNumber msg NLMSG_HDRLEN 1

/-- `fnl_getmsgdata` -/
def fnlGetmsgdata (hdrlen : Nat) : Nat :=
  NLMSG_HDRLEN + GENL_HDRLEN + nlaAlign hdrlen

/-- `fnl_getattrid` -/
def fnlGetattrid (msg : List UInt8) (ptr : Nat) : Option Nat :=
  loadNumber msg (ptr + 2) 2

/-- `fnl_getattrlen` -/
def fnlGetattrlen (msg : List UInt8) (ptr : Nat) : Option Int :=
  (loadNumber msg ptr 2).map fun (nlaLen : Nat) => (nlaLen : Int) - NLA_HDRLEN

/-- `fnl_getattrdata` -/
def fnlGetattrdata (ptr : Nat) : Nat :=
  ptr + NLA_HDRLEN

/-- `fnl_getnextattr` -/
def fnlGetnextattr (msg : List UInt8) (ptr : Nat) : Option Nat :=
  (loadNumber msg ptr 2).map fun nlaLen => ptr + nlaAlign nlaLen

section
variable {msg after : List UInt8} {ptr : Nat} {attr : Attr}

theorem fnlGetattrid_eq (reads : ReadsAttr msg ptr attr after) :
    fnlGetattrid msg ptr = some attr.id :=
  reads.id

theorem fnlGetattrlen_eq (reads : ReadsAttr msg ptr attr after) :
    fnlGetattrlen msg ptr = some (attr.payload.length : Int) := by
  rw [fnlGetattrlen, reads.length, Option.map_some, Option.some.injEq]
  push_cast
  omega

theorem fnlGetnextattr_eq (reads : ReadsAttr msg ptr attr after) :
    fnlGetnextattr msg ptr =
      some (ptr + nlaAlign (attr.payload.length + NLA_HDRLEN)) := by
  rw [fnlGetnextattr, reads.length, Option.map_some]

end

section
variable (family : Family) (seq pid : Nat) {cmd : Nat} (attrs : List Attr)

theorem fnlGetmsgtype_message :
    fnlGetmsgtype (message family seq pid cmd attrs) = some family.id := by
  simp only [fnlGetmsgtype, message, messageHdr, nlmsghdr, List.append_assoc]
  exact loadNumber_append (length_littleEndian 4 _) family.id_lt

theorem fnlGetcmd_message (small : cmd < 256) :
    fnlGetcmd (message family seq pid cmd attrs) = some cmd := by
  simp only [fnlGetcmd, message, messageHdr, genlmsghdr, List.append_assoc]
  exact loadNumber_append (length_nlmsghdr ..) small

/-- The attributes begin where `fnl_getmsgdata` points to. -/
theorem drop_message :
    (message family seq pid cmd attrs).drop (fnlGetmsgdata 0) = encode attrs := by
  apply drop_append_of_length
  rw [length_messageHdr]
  rfl

theorem fnlGetmsgdata_le :
    fnlGetmsgdata 0 ≤ (message family seq pid cmd attrs).length := by
  rw [length_message]
  exact Nat.le_add_right _ _

end

end Tunprox.NetlinkMessage
