import Tunprox.ByteBuffer

/-!
# Attributes of netlink messages

An attribute is a header of two numbers of 16 bits, its length and its type, and a payload,
padded to a multiple of four bytes.  Attributes follow one another without gaps.  The file
has the layout, what is found at the offset of an attribute, and the walk of the kernel's
parser, which reads back any sequence of attributes.
-/

namespace Tunprox.NetlinkAttribute

open ByteBuffer

/-- `NLA_ALIGN` -/
def nlaAlign (length : Nat) : Nat :=
  (length + 3) / 4 * 4

def NLA_HDRLEN : Nat := 4

/-- `NLA_TYPE_MASK` leaves the low 14 bits of the type. -/
def nlaType (number : Nat) : Nat :=
  number % 2 ^ 14

/-- An attribute whose length and type fit its header. -/
structure Attr where
  id : Nat
  payload : List UInt8
  id_lt : id < 2 ^ 14
  length_lt : payload.length + NLA_HDRLEN < 2 ^ 16

def padding (length : Nat) : List UInt8 :=
  List.replicate (nlaAlign length - length) 0

/-- The bytes of an attribute from its parts, where the length is taken modulo its field. -/
def attrBytes (id : Nat) (payload : List UInt8) : List UInt8 :=
  littleEndian 2 (payload.length + NLA_HDRLEN) ++ littleEndian 2 id ++ payload ++
    padding payload.length

def Attr.bytes (attr : Attr) : List UInt8 :=
  attrBytes attr.id attr.payload

def encode (attrs : List Attr) : List UInt8 :=
  attrs.flatMap Attr.bytes

theorem le_nlaAlign (length : Nat) : length ≤ nlaAlign length := by
  unfold nlaAlign
  omega

theorem nlaAlign_lt (length : Nat) : nlaAlign length < length + 4 := by
  unfold nlaAlign
  omega

theorem nlaAlign_hdrlen (length : Nat) :
    nlaAlign (length + NLA_HDRLEN) = NLA_HDRLEN + nlaAlign length := by
  unfold nlaAlign NLA_HDRLEN
  omega

@[simp]
theorem length_padding (length : Nat) : (padding length).length = nlaAlign length - length := by
  simp [padding]

@[simp]
theorem length_attrBytes (id : Nat) (payload : List UInt8) :
    (attrBytes id payload).length = nlaAlign (payload.length + NLA_HDRLEN) := by
  have aligned := le_nlaAlign payload.length
  rw [nlaAlign_hdrlen]
  simp only [attrBytes, List.length_append, length_littleEndian, length_padding]
  unfold NLA_HDRLEN
  omega

@[simp]
theorem length_bytes (attr : Attr) :
    attr.bytes.length = nlaAlign (attr.payload.length + NLA_HDRLEN) :=
  length_attrBytes attr.id attr.payload

@[simp]
theorem encode_nil : encode [] = [] :=
  rfl

theorem encode_cons (attr : Attr) (attrs : List Attr) :
    encode (attr :: attrs) = attr.bytes ++ encode attrs :=
  rfl

theorem encode_append (first second : List Attr) :
    encode (first ++ second) = encode first ++ encode second :=
  List.flatMap_append

/-- The parts of an attribute that stands at an offset, and what stands behind it. -/
structure ReadsAttr (buffer : List UInt8) (offset : Nat) (attr : Attr)
    (after : List UInt8) : Prop where
  length : loadNumber buffer offset 2 = some (attr.payload.length + NLA_HDRLEN)
  id : loadNumber buffer (offset + 2) 2 = some attr.id
  payload : load buffer (offset + NLA_HDRLEN) attr.payload.length = some attr.payload
  next : buffer.drop (offset + nlaAlign (attr.payload.length + NLA_HDRLEN)) = after
  inside : offset + nlaAlign (attr.payload.length + NLA_HDRLEN) ≤ buffer.length

theorem readsAttr_of_drop {buffer after : List UInt8} {offset : Nat} {attr : Attr}
    (inside : offset ≤ buffer.length) (split : buffer.drop offset = attr.bytes ++ after) :
    ReadsAttr buffer offset attr after := by
  have aligned := le_nlaAlign attr.payload.length
  have whole := nlaAlign_hdrlen attr.payload.length
  have total : buffer.length - offset =
      nlaAlign (attr.payload.length + NLA_HDRLEN) + after.length := by
    rw [← List.length_drop, split, List.length_append, length_bytes]
  have room : offset + 4 + attr.payload.length ≤ buffer.length := by
    unfold NLA_HDRLEN at total whole
    omega
  simp only [Attr.bytes, attrBytes, List.append_assoc] at split
  have skip (front back : List UInt8)
      (parts : buffer.drop offset = front ++ back) :
      buffer.drop (offset + front.length) = back := by
    rw [← List.drop_drop, parts, List.drop_left]
  have afterLength := skip _ _ split
  have afterId := skip (littleEndian 2 (attr.payload.length + NLA_HDRLEN) ++
    littleEndian 2 attr.id) (attr.payload ++ (padding attr.payload.length ++ after))
    (by rw [split, List.append_assoc])
  simp only [length_littleEndian, List.length_append] at afterLength afterId
  constructor
  · have loaded := load_of_drop inside split
    rw [length_littleEndian] at loaded
    rw [loadNumber, loaded, Option.map_some, ofLittleEndian_of_lt]
    exact attr.length_lt
  · have loaded := load_of_drop (by omega) afterLength
    rw [length_littleEndian] at loaded
    rw [loadNumber, loaded, Option.map_some, ofLittleEndian_of_lt]
    exact Nat.lt_trans attr.id_lt (by decide)
  · exact load_of_drop (by unfold NLA_HDRLEN; omega) afterId
  · rw [← length_bytes]
    apply skip
    simp only [Attr.bytes, attrBytes, List.append_assoc, split]
  · unfold NLA_HDRLEN at total ⊢
    omega

/-- `nla_parse`: the types and payloads of the attributes, as far as `nla_ok` accepts
them.  The walk advances by four bytes at least. -/
def nlaWalk : Nat → List UInt8 → List (Nat × List UInt8)
  | 0, _ => []
  | fuel + 1, bytes =>
      match loadNumber bytes 0 2, loadNumber bytes 2 2 with
      | some length, some number =>
          if NLA_HDRLEN ≤ length ∧ length ≤ bytes.length then
            (nlaType number, (bytes.drop NLA_HDRLEN).take (length - NLA_HDRLEN)) ::
              nlaWalk fuel (bytes.drop (nlaAlign length))
          else []
      | _, _ => []

/-- `info->attrs[id]`: the payload of the last attribute of the type. -/
def infoAttr (bytes : List UInt8) (id : Nat) : Option (List UInt8) :=
  ((nlaWalk bytes.length bytes).reverse.find? fun entry => entry.1 == id).map Prod.snd

theorem nlaWalk_encode (attrs : List Attr) {fuel : Nat}
    (enough : (encode attrs).length ≤ fuel) :
    nlaWalk fuel (encode attrs) = attrs.map fun attr => (attr.id, attr.payload) := by
  induction attrs generalizing fuel with
  | nil =>
      cases fuel with
      | zero => rfl
      | succ fuel => rfl
  | cons attr attrs ih =>
      have reads : ReadsAttr (encode (attr :: attrs)) 0 attr (encode attrs) :=
        readsAttr_of_drop (Nat.zero_le _) (encode_cons attr attrs)
      have aligned := le_nlaAlign (attr.payload.length + NLA_HDRLEN)
      have inside := reads.inside
      have payload := reads.payload
      have typeEq : nlaType attr.id = attr.id := Nat.mod_eq_of_lt attr.id_lt
      rw [encode_cons, List.length_append, length_bytes] at enough
      cases fuel with
      | zero =>
          unfold NLA_HDRLEN at aligned enough
          omega
      | succ fuel =>
          have fits : NLA_HDRLEN ≤ attr.payload.length + NLA_HDRLEN ∧
              attr.payload.length + NLA_HDRLEN ≤ (encode (attr :: attrs)).length := by
            omega
          have rest : (encode attrs).length ≤ fuel := by
            unfold NLA_HDRLEN at aligned enough
            omega
          have next := reads.next
          have number := reads.id
          rw [Nat.zero_add] at next payload number
          rw [load, Option.ite_none_right_eq_some, Option.some.injEq] at payload
          simp only [nlaWalk, reads.length, number, if_pos fits, typeEq, next, ih rest,
            List.map_cons, Nat.add_sub_cancel, payload.2]

/-- The types and payloads of attributes, which their headers can hold. -/
def Valid (entries : List (Nat × List UInt8)) : Prop :=
  ∀ entry ∈ entries, entry.1 < 2 ^ 14 ∧ entry.2.length + NLA_HDRLEN < 2 ^ 16

/-- Attributes one behind the other. -/
def attrsBytes (entries : List (Nat × List UInt8)) : List UInt8 :=
  entries.flatMap fun entry => attrBytes entry.1 entry.2

/-- The payload of the last entry of a type. -/
def lookup (entries : List (Nat × List UInt8)) (id : Nat) : Option (List UInt8) :=
  (entries.reverse.find? fun entry => entry.1 == id).map Prod.snd

theorem attrsBytes_cons (entry : Nat × List UInt8) (entries : List (Nat × List UInt8)) :
    attrsBytes (entry :: entries) = attrBytes entry.1 entry.2 ++ attrsBytes entries :=
  rfl

/-- An attribute takes up to seven bytes more than its payload. -/
theorem length_attrsBytes_le (entries : List (Nat × List UInt8)) :
    (attrsBytes entries).length ≤ (entries.map fun entry => entry.2.length + 7).sum := by
  induction entries with
  | nil => exact Nat.le_refl _
  | cons entry entries ih =>
      have aligned := nlaAlign_lt (entry.2.length + NLA_HDRLEN)
      rw [attrsBytes_cons, List.length_append, length_attrBytes, List.map_cons, List.sum_cons]
      unfold NLA_HDRLEN at aligned ⊢
      omega

theorem exists_encode {entries : List (Nat × List UInt8)} (valid : Valid entries) :
    ∃ attrs : List Attr, attrsBytes entries = encode attrs ∧
      (attrs.map fun attr => (attr.id, attr.payload)) = entries := by
  induction entries with
  | nil => exact ⟨[], rfl, rfl⟩
  | cons entry entries ih =>
      obtain ⟨attrs, bytes, same⟩ :=
        ih fun other member => valid other (List.mem_cons_of_mem _ member)
      obtain ⟨id_lt, length_lt⟩ := valid entry List.mem_cons_self
      refine ⟨⟨entry.1, entry.2, id_lt, length_lt⟩ :: attrs, ?_, ?_⟩
      · rw [attrsBytes_cons, bytes]
        rfl
      · rw [List.map_cons, same]

/-- The kernel finds the payloads by their types. -/
theorem infoAttr_attrsBytes {entries : List (Nat × List UInt8)} (valid : Valid entries)
    (id : Nat) : infoAttr (attrsBytes entries) id = lookup entries id := by
  obtain ⟨attrs, bytes, same⟩ := exists_encode valid
  rw [bytes, infoAttr, nlaWalk_encode attrs (Nat.le_refl _), same, lookup]

end Tunprox.NetlinkAttribute
