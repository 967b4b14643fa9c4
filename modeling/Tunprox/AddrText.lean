import Tunprox.CommandRequest
import Tunprox.InetText
import Tunprox.XmlParser

/-!
# Addresses on the command line

The tool takes addresses as texts, alone or, for the connection manager, in pairs.
`frad_getaddr` guesses from the number of colons whether a text is an IPv6 address, and in a
pair it sees the colons of both.  So the pair of two IPv4 addresses with ports is taken for an
IPv6 address unless the family is given.
-/

namespace Tunprox.AddrText

open ByteBuffer InetText
open CommandRequest (fradGetport)
open Netlink (RERR_OK RERR_INTERNAL RERR_SYSTEM RERR_PARAM RERR_NOT_FOUND)
open XmlParser (RERR_INVALID_FORMAT)

def FRAD_F_NOPORT : Nat := 1
def FRAD_F_NODNS : Nat := 2
def FRAD_F_IPV4 : Nat := 4
def FRAD_F_IPV6 : Nat := 8
def FRAD_F_DNSV4 : Nat := 16
def FRAD_F_DNSV6 : Nat := 32

def AF_UNSPEC : Nat := 0

def EAI_SYSTEM : Int := -11

/-- The test of a flag. -/
def has (flags flag : Nat) : Bool :=
  flags &&& flag != 0

/-- `index` -/
def index (string : List UInt8) (byte : UInt8) : Option (List UInt8) :=
  match string.dropWhile (· != byte) with
  | [] => none
  | found => some found

/-- `rindex`, with what stands before the byte. -/
def rindex (string : List UInt8) (byte : UInt8) : Option (List UInt8 × List UInt8) :=
  match string.reverse.dropWhile (· != byte) with
  | [] => none
  | found :: before =>
      some (before.reverse, found :: (string.reverse.takeWhile (· != byte)).reverse)

/-- `top_skipwhite` -/
def topSkipwhite (ptr : List UInt8) : List UInt8 :=
  ptr.dropWhile isspace

def fitsInt (value : Int) : Bool :=
  -2 ^ 31 ≤ value && value < 2 ^ 31

/-- The conversion `%d`: the number and what follows it. -/
def scanInt (string : List UInt8) : Option (Int × List UInt8) :=
  let signed := string.dropWhile isspace
  let body := if signed.head? = some 45 ∨ signed.head? = some 43 then signed.tail else signed
  if body.head?.all (fun byte => !isdigit byte) then none
  else
    some (if signed.head? = some 45 then -digits body else digits body,
      body.dropWhile isdigit)

/-- `sscanf` for numbers with single bytes between them.  It gives nothing where a number does
not fit into an `int`. -/
def sscanfInts : List UInt8 → List UInt8 → Option (List Int)
  | separators, string =>
      match scanInt string with
      | none => some []
      | some (value, rest) =>
          if !fitsInt value then none
          else
            match separators, rest with
            | separator :: separators, byte :: rest =>
                if byte = separator then
                  (sscanfInts separators rest).map fun values => value :: values
                else some [value]
            | _, _ => some [value]

def htonl (number : Nat) : Nat :=
  ofLittleEndian (littleEndian 4 number).reverse

/-- The four numbers of an IPv4 address as a `uint32_t`, whatever they are. -/
def ip4Number (a b c d : Int) : Nat :=
  let low := fun (value : Int) => (value % 2 ^ 32).toNat
  (low a <<< 24) % 2 ^ 32 ||| (low b <<< 16) % 2 ^ 32 ||| (low c <<< 8) % 2 ^ 32 ||| low d

/-- An `int` as the parameter of type `uint16_t`. -/
def portOf (port : Int) : Nat :=
  (port % 2 ^ 16).toNat

/-- `frad_setipv4` -/
def fradSetipv4 (ad4 : Nat) (port : Nat) : TpAddr where
  saFamily := AF_INET
  ip := ad4
  sinPort := htons port

/-- `frad_setipv6` -/
def fradSetipv6 (ad6 : List UInt8) (port : Nat) : TpAddr where
  saFamily := AF_INET6
  ip := ofLittleEndian ad6
  sinPort := htons port

/-- `frad_cp` -/
def fradCp (ad2 : TpAddr) : TpAddr where
  saFamily := if ad2.isIpv6 then AF_INET6 else AF_INET
  ip := ad2.ip
  sinPort := htons (htons ad2.sinPort)

/-- `frad_setport` -/
def fradSetport (ad : TpAddr) (port : Nat) : TpAddr :=
  { ad with sinPort := htons port }

/-- `frad_cppair` -/
def fradCppair (ad2 : TpAddr × TpAddr) : TpAddr × TpAddr :=
  (fradCp ad2.1, fradCp ad2.2)

/-- What `getaddrinfo` gives for a name and a family: its error, or the first address. -/
def Resolver : Type :=
  List UInt8 → Nat → Except Int (Option TpAddr)

/-- The text that `frad_sprint` prints. -/
def addrText (addr : TpAddr) : Except Int (List UInt8) :=
  let port := 58 :: numberText 10 (fradGetport addr)
  if addr.isIpv6 then
    .ok (91 :: (inetNtop6 (littleEndian 16 addr.ip) ++ 93 :: port))
  else if addr.isIpv4 then .ok (inetNtop4 (littleEndian 4 addr.ip) ++ port)
  else .error RERR_SYSTEM

/-- `frad_sprint` with a buffer of `blen` bytes. -/
def fradSprint (blen : Nat) (addr : TpAddr) : Except Int (List UInt8) :=
  (addrText addr).map fun text => text.take (blen - 1)

section Parse

variable (resolve : Resolver)

/-- `atoi`, which gives nothing where the number does not fit into an `int`. -/
def checkedAtoi (string : List UInt8) : Option Int :=
  if fitsInt (atoi string) then some (atoi string) else none

/-- `frad_getaddr` where it needs `getaddrinfo`. -/
def getaddrDns (before : TpAddr) (str : List UInt8) (flags : Nat) :
    Option (Except Int TpAddr) :=
  if has flags FRAD_F_NODNS then some (.error RERR_INVALID_FORMAT)
  else
    let family :=
      if has flags FRAD_F_DNSV4 || has flags FRAD_F_IPV4 then AF_INET
      else if has flags FRAD_F_DNSV6 || has flags FRAD_F_IPV6 then AF_INET6
      else AF_UNSPEC
    let named : Option (List UInt8 × Nat) :=
      if has flags FRAD_F_NOPORT then some (str, fradGetport before)
      else
        match rindex str 58 with
        | none => some (str, 0)
        | some (name, colon) =>
            (checkedAtoi (topSkipwhite colon.tail)).map fun port => (name, portOf port)
    named.map fun (name, port) =>
      match resolve name family with
      | .error failed => .error (if failed = EAI_SYSTEM then RERR_SYSTEM else RERR_NOT_FOUND)
      | .ok none => .error RERR_INTERNAL
      | .ok (some found) => .ok (fradSetport (fradCp found) port)

/-- `frad_getaddr` for an IPv6 address. -/
def getaddrIpv6 (before : TpAddr) (str : List UInt8) (flags : Nat) :
    Option (Except Int TpAddr) :=
  let parsed : Option (List UInt8 × Nat) :=
    match index str 91 with
    | some bracket =>
        let inside := bracket.tail
        let name := inside.takeWhile (· != 93)
        if has flags FRAD_F_NOPORT then some (name, fradGetport before)
        else
          match index (inside.dropWhile (· != 93)).tail 58 with
          | none => some (name, 0)
          | some colon =>
              let digits := topSkipwhite colon.tail
              if digits.head?.all (fun byte => !isdigit byte) then some (name, 0)
              else (checkedAtoi digits).map fun port => (name, portOf port)
    | none => some (str, if has flags FRAD_F_NOPORT then fradGetport before else 0)
  parsed.map fun (name, port) =>
    match inetPton6 name with
    | none => .error RERR_INVALID_FORMAT
    | some ad6 => .ok (fradSetipv6 ad6 port)

/-- There are two colons at least. -/
def twoColons (str : List UInt8) : Bool :=
  ((index str 58).bind fun colon => index colon.tail 58).isSome

/-- `frad_getaddr`, with the address that is overwritten.  It gives nothing where a number does
not fit into an `int`. -/
def fradGetaddr (before : TpAddr) (str : List UInt8) (flags : Nat) :
    Option (Except Int TpAddr) :=
  let ipv6 := !has flags FRAD_F_IPV4 && (has flags FRAD_F_IPV6 || twoColons str)
  if !ipv6 then
    (sscanfInts [46, 46, 46, 58] str).bind fun numbers =>
      match numbers with
      | a :: b :: c :: d :: port =>
          let port :=
            if has flags FRAD_F_NOPORT then fradGetport before else portOf (port.headD 0)
          some (.ok (fradSetipv4 (htonl (ip4Number a b c d)) port))
      | _ => getaddrDns resolve before str flags
  else if twoColons str then getaddrIpv6 before str flags
  else getaddrDns resolve before str flags

/-- `frad_getaddrpair` -/
def fradGetaddrpair (before : TpAddr × TpAddr) (str : List UInt8) (flags : Nat) :
    Option (Except Int (TpAddr × TpAddr)) :=
  (fradGetaddr resolve before.1 str flags).bind fun parsed =>
    match parsed with
    | .error ret => some (.error ret)
    | .ok laddr =>
        match (index str 47).orElse fun _ => index str 45 with
        | none => some (.error RERR_INVALID_FORMAT)
        | some separator =>
            (fradGetaddr resolve before.2 separator.tail flags).map fun parsed =>
              parsed.map fun raddr => (laddr, raddr)

/-- An option of `cmd_conman`; `other` stands for those that it passes over. -/
inductive ConmanOpt where
  | help
  | debug
  | ipv4
  | ipv6
  | connect (optarg : List UInt8)
  | other

/-- The options of `cmd_conman` with `addr_add`: `addr_list`, or nothing in it if the help text
is asked for. -/
def conmanOptions (before : TpAddr × TpAddr) :
    List ConmanOpt → Nat → List (TpAddr × TpAddr) →
      Option (Except Int (Option (List (TpAddr × TpAddr))))
  | [], _, addrList => some (.ok (some addrList))
  | .help :: _, _, _ => some (.ok none)
  | .debug :: options, addrflags, addrList => conmanOptions before options addrflags addrList
  | .other :: options, addrflags, addrList => conmanOptions before options addrflags addrList
  | .ipv4 :: options, _, addrList => conmanOptions before options FRAD_F_IPV4 addrList
  | .ipv6 :: options, _, addrList => conmanOptions before options FRAD_F_IPV6 addrList
  | .connect optarg :: options, addrflags, addrList =>
      (fradGetaddrpair resolve before optarg addrflags).bind fun added =>
        match added with
        | .error ret => some (.error ret)
        | .ok addr => conmanOptions before options addrflags (addrList ++ [fradCppair addr])

end Parse

/-- A text that starts with no digit. -/
def NoDigit (rest : List UInt8) : Prop :=
  rest.head?.all (fun byte => !isdigit byte) = true

section Numbers

theorem isdigit_of_numberText {number : Nat} {byte : UInt8}
    (member : byte ∈ numberText 10 number) : isdigit byte = true := by
  obtain ⟨digit, digitMember, rfl⟩ := List.mem_map.mp member
  exact (isdigit_digitByte (lt_of_mem_numeral (by decide) digitMember)).1

theorem takeWhile_number {rest : List UInt8} (noDigit : NoDigit rest) (number : Nat) :
    (numberText 10 number ++ rest).takeWhile isdigit = numberText 10 number ∧
      (numberText 10 number ++ rest).dropWhile isdigit = rest := by
  have digits : ∀ byte ∈ numberText 10 number, isdigit byte = true :=
    fun byte member => isdigit_of_numberText member
  rw [List.takeWhile_append_of_pos digits, List.dropWhile_append_of_pos digits]
  cases rest with
  | nil => simp
  | cons first rest =>
      have stops : isdigit first = false := by simpa [NoDigit] using noDigit
      simp [stops]

/-- The digits of a number are read as the number. -/
theorem digits_number {rest : List UInt8} (noDigit : NoDigit rest) (number : Nat) :
    digits (numberText 10 number ++ rest) = number := by
  have same (numbers : List Nat) (small : ∀ digit ∈ numbers, digit < 10) (value : Nat) :
      (numbers.map digitByte).foldl (fun value byte => 10 * value + (byte.toNat - 48)) value =
        readDigits 10 value numbers := by
    induction numbers generalizing value with
    | nil => rfl
    | cons digit numbers ih =>
        rw [List.map_cons, List.foldl_cons,
          (isdigit_digitByte (small digit List.mem_cons_self)).2]
        exact ih (fun digit member => small digit (List.mem_cons_of_mem _ member)) _
  rw [digits, (takeWhile_number noDigit number).1, numberText, same]
  · exact readDigits_numeral 10 number
  · exact fun digit member => lt_of_mem_numeral (by decide) member

/-- A number starts with a digit. -/
theorem exists_first_digit (number : Nat) (rest : List UInt8) :
    ∃ first more, numberText 10 number ++ rest = first :: more ∧ isdigit first = true := by
  cases text : numberText 10 number with
  | nil => exact absurd text (numberText_ne_nil 10 number)
  | cons first more =>
      exact ⟨first, more ++ rest, rfl, isdigit_of_numberText (text ▸ List.mem_cons_self)⟩

/-- A digit is no white space and no sign. -/
theorem ne_of_isdigit {byte : UInt8} (digit : isdigit byte = true) :
    isspace byte = false ∧ byte ≠ 45 ∧ byte ≠ 43 := by
  have all : ∀ value < 256, isdigit (UInt8.ofNat value) = true →
      isspace (UInt8.ofNat value) = false ∧
        UInt8.ofNat value ≠ 45 ∧ UInt8.ofNat value ≠ 43 := by
    decide +kernel
  have this := all byte.toNat byte.toNat_lt
  rw [UInt8.ofNat_toNat] at this
  exact this digit

theorem atoi_number {rest : List UInt8} (noDigit : NoDigit rest) (number : Nat) :
    atoi (numberText 10 number ++ rest) = number := by
  obtain ⟨first, more, text, digit⟩ := exists_first_digit number rest
  obtain ⟨solid, notMinus, notPlus⟩ := ne_of_isdigit digit
  have value := digits_number noDigit number
  rw [text] at value ⊢
  unfold atoi
  rw [List.dropWhile_cons_of_neg (by simp [solid])]
  split
  · contradiction
  · rename_i same
    exact absurd (List.cons.inj same).1 notMinus
  · rename_i same
    exact absurd (List.cons.inj same).1 notPlus
  · rename_i same
    rw [← same, value]

theorem scanInt_number {rest : List UInt8} (noDigit : NoDigit rest) (number : Nat) :
    scanInt (numberText 10 number ++ rest) = some ((number : Int), rest) := by
  obtain ⟨first, more, text, digit⟩ := exists_first_digit number rest
  obtain ⟨solid, notMinus, notPlus⟩ := ne_of_isdigit digit
  have value := digits_number noDigit number
  have behind := (takeWhile_number noDigit number).2
  rw [text] at value behind ⊢
  have kept : (first :: more).dropWhile isspace = first :: more :=
    List.dropWhile_cons_of_neg (by simp [solid])
  simp only [scanInt, kept, List.head?_cons, Option.some.injEq, notMinus, notPlus, or_self,
    if_false, Option.all_some, digit, Bool.not_true, Bool.false_eq_true, value, behind]

theorem fitsInt_of_lt {number : Nat} (small : number < 2 ^ 31) : fitsInt number = true := by
  simp only [fitsInt, Bool.and_eq_true, decide_eq_true_eq]
  omega

end Numbers

section Words

theorem littleEndian_ofLittleEndian (bytes : List UInt8) :
    littleEndian bytes.length (ofLittleEndian bytes) = bytes := by
  induction bytes with
  | nil => rfl
  | cons byte bytes ih =>
      have small := byte.toNat_lt
      have rest : (byte.toNat + 256 * ofLittleEndian bytes) / 256 = ofLittleEndian bytes := by
        omega
      have first : UInt8.ofNat (byte.toNat + 256 * ofLittleEndian bytes) = byte := by
        apply UInt8.toNat_inj.mp
        rw [UInt8.toNat_ofNat']
        omega
      rw [List.length_cons, ofLittleEndian, littleEndian, rest, ih, first]

/-- The four bytes of an address in the order of the memory. -/
theorem htonl_ip4Number (a b c d : UInt8) :
    htonl (ip4Number a.toNat b.toNat c.toNat d.toNat) = ofLittleEndian [a, b, c, d] := by
  have aSmall := a.toNat_lt
  have bSmall := b.toNat_lt
  have cSmall := c.toNat_lt
  have dSmall := d.toNat_lt
  have low (byte : UInt8) : (((byte.toNat : Nat) : Int) % 2 ^ 32).toNat = byte.toNat := by
    have small := byte.toNat_lt
    omega
  have number : ip4Number a.toNat b.toNat c.toNat d.toNat = ofLittleEndian [d, c, b, a] := by
    simp only [ip4Number, low, Nat.shiftLeft_eq]
    have shifted (byte : UInt8) (places : Nat) (few : places ≤ 24) :
        byte.toNat * 2 ^ places % 2 ^ 32 = byte.toNat <<< places := by
      have small := byte.toNat_lt
      rw [Nat.shiftLeft_eq, Nat.mod_eq_of_lt]
      calc byte.toNat * 2 ^ places < 2 ^ 8 * 2 ^ places :=
            Nat.mul_lt_mul_of_pos_right small (Nat.two_pow_pos places)
        _ ≤ 2 ^ 8 * 2 ^ 24 :=
            Nat.mul_le_mul_left _ (Nat.pow_le_pow_right (by decide) few)
        _ = 2 ^ 32 := by decide
    rw [shifted a 24 (by decide), shifted b 16 (by decide), shifted c 8 (by decide)]
    have first : a.toNat <<< 24 ||| b.toNat <<< 16 = (a.toNat * 256 + b.toNat) <<< 16 := by
      rw [← Nat.shiftLeft_add_eq_or_of_lt (by rw [Nat.shiftLeft_eq]; omega)]
      simp only [Nat.shiftLeft_eq]
      omega
    have second : (a.toNat * 256 + b.toNat) <<< 16 ||| c.toNat <<< 8 =
        ((a.toNat * 256 + b.toNat) * 256 + c.toNat) <<< 8 := by
      rw [← Nat.shiftLeft_add_eq_or_of_lt (by rw [Nat.shiftLeft_eq]; omega)]
      simp only [Nat.shiftLeft_eq]
      omega
    rw [first, second, ← Nat.shiftLeft_add_eq_or_of_lt dSmall, Nat.shiftLeft_eq]
    simp only [ofLittleEndian]
    omega
  have stored := littleEndian_ofLittleEndian [d, c, b, a]
  rw [htonl, number]
  exact congrArg (fun bytes => ofLittleEndian bytes.reverse) stored

end Words

/-- An IPv4 address with a port, as the functions of the tool store them. -/
def ProperIpv4 (addr : TpAddr) : Prop :=
  addr.saFamily = AF_INET ∧ addr.ip < 256 ^ 4 ∧ addr.sinPort < 2 ^ 16

/-- An IPv6 address with a port. -/
def ProperIpv6 (addr : TpAddr) : Prop :=
  addr.saFamily = AF_INET6 ∧ addr.ip < 256 ^ 16 ∧ addr.sinPort < 2 ^ 16

instance (addr : TpAddr) : Decidable (ProperIpv4 addr) :=
  inferInstanceAs (Decidable (_ ∧ _ ∧ _))

instance (addr : TpAddr) : Decidable (ProperIpv6 addr) :=
  inferInstanceAs (Decidable (_ ∧ _ ∧ _))

/-- The text of an IPv4 address. -/
def text4 (addr : TpAddr) : List UInt8 :=
  inetNtop4 (littleEndian 4 addr.ip) ++ 58 :: numberText 10 (fradGetport addr)

/-- The text of an IPv6 address. -/
def text6 (addr : TpAddr) : List UInt8 :=
  91 :: (inetNtop6 (littleEndian 16 addr.ip) ++ 93 :: 58 :: numberText 10 (fradGetport addr))

section Texts

variable {addr : TpAddr}

theorem addrText_ipv4 (proper : ProperIpv4 addr) : addrText addr = .ok (text4 addr) := by
  have ipv4 : addr.isIpv6 = false ∧ addr.isIpv4 = true := by
    simp [TpAddr.isIpv6, TpAddr.isIpv4, proper.1, AF_INET, AF_INET6]
  simp only [addrText, ipv4, Bool.false_eq_true, if_false, if_true, text4]

theorem addrText_ipv6 (proper : ProperIpv6 addr) : addrText addr = .ok (text6 addr) := by
  have ipv6 : addr.isIpv6 = true := by simp [TpAddr.isIpv6, proper.1]
  simp only [addrText, ipv6, if_true, text6]

theorem portOf_fradGetport (port : addr.sinPort < 2 ^ 16) :
    portOf (fradGetport addr) = fradGetport addr ∧ htons (fradGetport addr) = addr.sinPort := by
  have small : fradGetport addr < 2 ^ 16 := htons_lt _
  constructor
  · unfold portOf
    omega
  · exact htons_htons port

theorem noDigit_colon (rest : List UInt8) : NoDigit (58 :: rest) :=
  show (!isdigit 58) = true by decide

theorem noDigit_dot (rest : List UInt8) : NoDigit (46 :: rest) :=
  show (!isdigit 46) = true by decide

/-- `sscanf` on the text of an IPv4 address. -/
theorem sscanfInts_text4 {rest : List UInt8} (noDigit : NoDigit rest) (a b c d : UInt8)
    {port : Nat} (small : port < 2 ^ 16) :
    sscanfInts [46, 46, 46, 58]
        (inetNtop4 [a, b, c, d] ++ 58 :: (numberText 10 port ++ rest)) =
      some [(a.toNat : Int), (b.toNat : Int), (c.toNat : Int), (d.toNat : Int),
        (port : Int)] := by
  have octet (byte : UInt8) : fitsInt byte.toNat = true :=
    fitsInt_of_lt (byte.toNat_lt.trans (by decide))
  have portFits : fitsInt port = true := fitsInt_of_lt (by omega)
  rw [inetNtop4_four]
  simp only [List.append_assoc, List.cons_append, List.nil_append, sscanfInts,
    scanInt_number (noDigit_dot _), scanInt_number (noDigit_colon _), scanInt_number noDigit,
    octet, portFits, Bool.not_true, Bool.false_eq_true, if_false, if_true, Option.map_some]

theorem exists_octets (ip : Nat) : ∃ a b c d, littleEndian 4 ip = [a, b, c, d] :=
  ⟨_, _, _, _, rfl⟩

end Texts

section Single

variable {resolve : Resolver} {before addr : TpAddr} {flags : Nat} {rest : List UInt8}

/-- The text of an IPv4 address is read as the address unless it is taken for an IPv6 address,
whatever follows it. -/
theorem getaddr_text4 (proper : ProperIpv4 addr) (noDigit : NoDigit rest)
    (ipv4 : (has flags FRAD_F_IPV4 = true ∨
      has flags FRAD_F_IPV6 = false ∧ twoColons (text4 addr ++ rest) = false))
    (withPort : has flags FRAD_F_NOPORT = false) :
    fradGetaddr resolve before (text4 addr ++ rest) flags = some (.ok addr) := by
  have notIpv6 : (!has flags FRAD_F_IPV4 &&
      (has flags FRAD_F_IPV6 || twoColons (text4 addr ++ rest))) = false := by
    rcases ipv4 with given | ⟨notGiven, few⟩
    · simp [given]
    · simp [notGiven, few]
  obtain ⟨portSame, portBack⟩ := portOf_fradGetport proper.2.2
  have portSmall : fradGetport addr < 2 ^ 16 := htons_lt _
  obtain ⟨a, b, c, d, bytes⟩ := exists_octets addr.ip
  have numbers := sscanfInts_text4 noDigit a b c d portSmall
  have ip : ofLittleEndian [a, b, c, d] = addr.ip := by
    rw [← bytes, ofLittleEndian_of_lt proper.2.1]
  rw [← bytes] at numbers
  have text : text4 addr ++ rest = inetNtop4 (littleEndian 4 addr.ip) ++
      58 :: (numberText 10 (fradGetport addr) ++ rest) := by
    simp [text4]
  rw [fradGetaddr, notIpv6, text, numbers]
  simp only [Bool.not_false, if_true, Option.bind_some, withPort, Bool.false_eq_true, if_false,
    List.headD_cons, portSame, htonl_ip4Number, ip, fradSetipv4, portBack, ← proper.1]

theorem index_cons_self (byte : UInt8) (rest : List UInt8) :
    index (byte :: rest) byte = some (byte :: rest) := by
  simp [index]

theorem index_append_of_not_mem {byte : UInt8} {front : List UInt8} (absent : byte ∉ front)
    (rest : List UInt8) : index (front ++ rest) byte = index rest byte := by
  have passed : ∀ other ∈ front, (other != byte) = true := by
    intro other member
    simp only [bne_iff_ne]
    rintro rfl
    exact absent member
  simp only [index, List.dropWhile_append_of_pos passed]

theorem index_eq_none {byte : UInt8} {string : List UInt8} (absent : byte ∉ string) :
    index string byte = none := by
  rw [← List.append_nil string, index_append_of_not_mem absent]
  rfl

/-- A byte that occurs is found. -/
theorem twoColons_iff (str : List UInt8) : twoColons str = true ↔ 2 ≤ str.count 58 := by
  by_cases colon : 58 ∈ str
  · obtain ⟨front, rest, rfl, absent⟩ := List.eq_append_cons_of_mem colon
    have found : twoColons (front ++ 58 :: rest) = (index rest 58).isSome := by
      rw [twoColons, index_append_of_not_mem absent, index_cons_self]
      rfl
    rw [found, List.count_append, List.count_eq_zero.mpr absent, List.count_cons_self]
    by_cases second : 58 ∈ rest
    · obtain ⟨middle, behind, rfl, free⟩ := List.eq_append_cons_of_mem second
      rw [index_append_of_not_mem free, index_cons_self, List.count_append,
        List.count_cons_self]
      simp only [Option.isSome_some, true_iff]
      omega
    · rw [index_eq_none second, List.count_eq_zero.mpr second]
      simp
  · rw [twoColons, index_eq_none colon, List.count_eq_zero.mpr colon]
    simp

theorem not_mem_inetNtop6 {byte : UInt8} (other : isTextByte byte = false) (ip : Nat) :
    byte ∉ inetNtop6 (littleEndian 16 ip) := by
  intro member
  rw [isTextByte_inetNtop6 (length_littleEndian 16 ip) byte member] at other
  contradiction

theorem two_le_count_text6 (addr : TpAddr) (rest : List UInt8) :
    2 ≤ (text6 addr ++ rest).count 58 := by
  have colons := two_le_count_inetNtop6 (length_littleEndian 16 addr.ip)
  rw [text6, List.cons_append, List.count_cons_of_ne (by decide), List.append_assoc,
    List.count_append]
  omega

theorem topSkipwhite_number (number : Nat) (rest : List UInt8) :
    topSkipwhite (numberText 10 number ++ rest) = numberText 10 number ++ rest ∧
      (numberText 10 number ++ rest).head?.all (fun byte => !isdigit byte) = false := by
  obtain ⟨first, more, text, digit⟩ := exists_first_digit number rest
  rw [text]
  constructor
  · exact List.dropWhile_cons_of_neg (by simp [(ne_of_isdigit digit).1])
  · simp [digit]

theorem checkedAtoi_number (noDigit : NoDigit rest) {number : Nat} (small : number < 2 ^ 31) :
    checkedAtoi (numberText 10 number ++ rest) = some (number : Int) := by
  rw [checkedAtoi, atoi_number noDigit, if_pos (fitsInt_of_lt small)]

/-- `frad_getaddr` for an IPv6 address takes the first one that stands in brackets. -/
theorem getaddrIpv6_text6 (before : TpAddr) (proper : ProperIpv6 addr)
    (noDigit : NoDigit rest) (withPort : has flags FRAD_F_NOPORT = false)
    (front : List UInt8) (noBracket : 91 ∉ front) :
    getaddrIpv6 before (front ++ (text6 addr ++ rest)) flags = some (.ok addr) := by
  obtain ⟨portSame, portBack⟩ := portOf_fradGetport proper.2.2
  have portSmall : fradGetport addr < 2 ^ 31 := by
    have small : fradGetport addr < 2 ^ 16 := htons_lt _
    omega
  have absent := not_mem_inetNtop6 (show isTextByte 93 = false by decide) addr.ip
  have inside : ∀ byte ∈ inetNtop6 (littleEndian 16 addr.ip), (byte != 93) = true := by
    intro byte member
    simp only [bne_iff_ne]
    rintro rfl
    exact absent member
  obtain ⟨noWhite, digit⟩ := topSkipwhite_number (fradGetport addr) rest
  have name := inetPton6_inetNtop6 (length_littleEndian 16 addr.ip)
  rw [getaddrIpv6, index_append_of_not_mem noBracket, text6, List.cons_append, index_cons_self]
  simp only [List.tail_cons, List.append_assoc, List.takeWhile_append_of_pos inside,
    List.dropWhile_append_of_pos inside, List.cons_append, List.takeWhile_cons, bne_self_eq_false,
    Bool.false_eq_true, if_false, List.append_nil, List.dropWhile_cons, withPort, index_cons_self,
    noWhite, digit, checkedAtoi_number noDigit portSmall, Option.map_some, name, fradSetipv6,
    portSame, portBack, ofLittleEndian_of_lt proper.2.1, ← proper.1]

/-- The text of an IPv6 address is read as the address unless the family is given to be IPv4. -/
theorem getaddr_text6 (proper : ProperIpv6 addr) (noDigit : NoDigit rest)
    (notIpv4 : has flags FRAD_F_IPV4 = false) (withPort : has flags FRAD_F_NOPORT = false) :
    fradGetaddr resolve before (text6 addr ++ rest) flags = some (.ok addr) := by
  have colons := (twoColons_iff _).mpr (two_le_count_text6 addr rest)
  have parsed := getaddrIpv6_text6 before proper noDigit withPort [] List.not_mem_nil
  rw [List.nil_append] at parsed
  simp only [fradGetaddr, notIpv4, colons, Bool.or_true, Bool.not_false, Bool.true_and,
    Bool.not_true, Bool.false_eq_true, if_false, if_true, parsed]

end Single

section Family

variable {resolve : Resolver} {before addr : TpAddr} {flags : Nat} {str : List UInt8}

/-- `getaddrinfo` gives addresses of the family that it is asked for. -/
def Respects (resolve : Resolver) : Prop :=
  ∀ name family found, resolve name family = .ok (some found) → family ≠ AF_UNSPEC →
    found.saFamily = family

/-- A `getaddrinfo` that knows no names. -/
def noNames : Resolver :=
  fun _ _ => .error (-2)

theorem respects_noNames : Respects noNames :=
  fun _ _ _ found => by contradiction

theorem isIpv6_of_getaddrIpv6 (parsed : getaddrIpv6 before str flags = some (.ok addr)) :
    addr.isIpv6 = true := by
  obtain ⟨⟨name, port⟩, -, result⟩ := Option.map_eq_some_iff.mp parsed
  simp only at result
  split at result
  · contradiction
  · obtain rfl := Except.ok.inj result
    rfl

/-- What `getaddrinfo` finds has the family that is given. -/
theorem isIpv6_of_getaddrDns (respects : Respects resolve) (given : Bool)
    (family : (if has flags FRAD_F_DNSV4 || has flags FRAD_F_IPV4 then AF_INET
      else if has flags FRAD_F_DNSV6 || has flags FRAD_F_IPV6 then AF_INET6
      else AF_UNSPEC) = if given then AF_INET6 else AF_INET)
    (parsed : getaddrDns resolve before str flags = some (.ok addr)) :
    addr.isIpv6 = given := by
  unfold getaddrDns at parsed
  split at parsed
  · cases Option.some.inj parsed
  · simp only [family] at parsed
    obtain ⟨⟨name, port⟩, -, result⟩ := Option.map_eq_some_iff.mp parsed
    simp only at result
    split at result
    · contradiction
    · contradiction
    · rename_i found resolved
      obtain rfl := Except.ok.inj result
      have same := respects name _ found resolved (by cases given <;> decide)
      cases given with
      | true => simp [fradSetport, fradCp, TpAddr.isIpv6, same]
      | false =>
          have other : AF_INET ≠ AF_INET6 := by decide
          simp [fradSetport, fradCp, TpAddr.isIpv6, same, other]

/-- With `FRAD_F_IPV4` no IPv6 address comes out. -/
theorem isIpv6_of_getaddr_ipv4 (respects : Respects resolve)
    (given : has flags FRAD_F_IPV4 = true)
    (parsed : fradGetaddr resolve before str flags = some (.ok addr)) :
    addr.isIpv6 = false := by
  simp only [fradGetaddr, given, Bool.not_true, Bool.false_and, Bool.not_false, if_true] at parsed
  obtain ⟨numbers, -, result⟩ := Option.bind_eq_some_iff.mp parsed
  split at result
  · obtain rfl := Except.ok.inj (Option.some.inj result)
    rfl
  · apply isIpv6_of_getaddrDns respects false _ result
    simp [given]

/-- With `FRAD_F_IPV6`, or two colons, no IPv4 address comes out unless `FRAD_F_IPV4` is set. -/
theorem isIpv6_of_getaddr_ipv6 (respects : Respects resolve)
    (notIpv4 : has flags FRAD_F_IPV4 = false) (notDnsv4 : has flags FRAD_F_DNSV4 = false)
    (given : has flags FRAD_F_IPV6 = true ∨ twoColons str = true)
    (parsed : fradGetaddr resolve before str flags = some (.ok addr)) :
    addr.isIpv6 = true := by
  have ipv6 : (has flags FRAD_F_IPV6 || twoColons str) = true := by
    rcases given with given | given
    · rw [given, Bool.true_or]
    · rw [given, Bool.or_true]
  simp only [fradGetaddr, notIpv4, ipv6, Bool.not_false, Bool.true_and, Bool.not_true,
    Bool.false_eq_true, if_false] at parsed
  split at parsed
  · exact isIpv6_of_getaddrIpv6 parsed
  · rename_i few
    have flagged := given.resolve_right few
    apply isIpv6_of_getaddrDns respects true _ parsed
    simp [notIpv4, notDnsv4, flagged]

/-- `getaddrinfo` gives IPv4 and IPv6 addresses only. -/
def Genuine (resolve : Resolver) : Prop :=
  ∀ name family found, resolve name family = .ok (some found) →
    ProperIpv4 found ∨ ProperIpv6 found

theorem proper_fradSetipv4 (a b c d : Int) (port : Nat) :
    ProperIpv4 (fradSetipv4 (htonl (ip4Number a b c d)) port) := by
  refine ⟨rfl, ?_, htons_lt port⟩
  have bound := ofLittleEndian_lt (littleEndian 4 (ip4Number a b c d)).reverse
  rw [List.length_reverse, length_littleEndian] at bound
  exact bound

theorem proper_fradSetport {found : TpAddr} (proper : ProperIpv4 found ∨ ProperIpv6 found)
    (port : Nat) :
    ProperIpv4 (fradSetport (fradCp found) port) ∨
      ProperIpv6 (fradSetport (fradCp found) port) := by
  have other : AF_INET ≠ AF_INET6 := by decide
  rcases proper with proper | proper
  · left
    refine ⟨?_, proper.2.1, htons_lt port⟩
    simp [fradSetport, fradCp, TpAddr.isIpv6, proper.1, other]
  · right
    refine ⟨?_, proper.2.1, htons_lt port⟩
    simp [fradSetport, fradCp, TpAddr.isIpv6, proper.1]

theorem getaddrDns_cases (parsed : getaddrDns resolve before str flags = some (.ok addr)) :
    ∃ name family found port, resolve name family = .ok (some found) ∧
      addr = fradSetport (fradCp found) port := by
  unfold getaddrDns at parsed
  split at parsed
  · cases Option.some.inj parsed
  · obtain ⟨⟨name, port⟩, -, result⟩ := Option.map_eq_some_iff.mp parsed
    simp only at result
    split at result
    · contradiction
    · contradiction
    · rename_i found resolved
      exact ⟨name, _, found, port, resolved, (Except.ok.inj result).symm⟩

theorem getaddrIpv6_cases (parsed : getaddrIpv6 before str flags = some (.ok addr)) :
    ∃ ad6 port, ad6.length = 16 ∧ addr = fradSetipv6 ad6 port := by
  obtain ⟨⟨name, port⟩, -, result⟩ := Option.map_eq_some_iff.mp parsed
  simp only at result
  split at result
  · contradiction
  · rename_i ad6 read
    exact ⟨ad6, port, length_of_inetPton6 read, (Except.ok.inj result).symm⟩

/-- The three ways in which `frad_getaddr` sets an address. -/
theorem getaddr_cases (parsed : fradGetaddr resolve before str flags = some (.ok addr)) :
    (∃ a b c d port, addr = fradSetipv4 (htonl (ip4Number a b c d)) port) ∨
    (∃ ad6 port, ad6.length = 16 ∧ addr = fradSetipv6 ad6 port) ∨
    ∃ name family found port, resolve name family = .ok (some found) ∧
      addr = fradSetport (fradCp found) port := by
  cases ipv6 : !has flags FRAD_F_IPV4 && (has flags FRAD_F_IPV6 || twoColons str) with
  | false =>
      simp only [fradGetaddr, ipv6, Bool.not_false, if_true] at parsed
      obtain ⟨numbers, -, result⟩ := Option.bind_eq_some_iff.mp parsed
      split at result
      · exact Or.inl ⟨_, _, _, _, _, (Except.ok.inj (Option.some.inj result)).symm⟩
      · exact Or.inr (Or.inr (getaddrDns_cases result))
  | true =>
      simp only [fradGetaddr, ipv6, Bool.not_true, Bool.false_eq_true, if_false] at parsed
      split at parsed
      · exact Or.inr (Or.inl (getaddrIpv6_cases parsed))
      · exact Or.inr (Or.inr (getaddrDns_cases parsed))

/-- What `frad_getaddr` accepts is an address of one of the two families, whose parts fit. -/
theorem proper_of_getaddr (genuine : Genuine resolve)
    (parsed : fradGetaddr resolve before str flags = some (.ok addr)) :
    ProperIpv4 addr ∨ ProperIpv6 addr := by
  obtain ⟨a, b, c, d, port, rfl⟩ | ⟨ad6, port, length, rfl⟩ |
    ⟨name, family, found, port, resolved, rfl⟩ := getaddr_cases parsed
  · exact Or.inl (proper_fradSetipv4 a b c d port)
  · right
    refine ⟨rfl, ?_, htons_lt port⟩
    have bound := ofLittleEndian_lt ad6
    rw [length] at bound
    exact bound
  · exact proper_fradSetport (genuine name family found resolved) port

theorem fradCp_eq_self (family : addr.saFamily = AF_INET ∨ addr.saFamily = AF_INET6)
    (fits : addr.sinPort < 2 ^ 16) : fradCp addr = addr := by
  obtain ⟨saFamily, ip, sinPort⟩ := addr
  rw [fradCp, htons_htons fits]
  rcases family with rfl | rfl
  · rfl
  · rfl

theorem saFamily_fradCp (found : TpAddr) :
    (fradCp found).saFamily = AF_INET ∨ (fradCp found).saFamily = AF_INET6 := by
  rw [fradCp]
  cases found.isIpv6 with
  | true => exact Or.inr rfl
  | false => exact Or.inl rfl

/-- `frad_cp` copies the addresses that `frad_getaddr` sets. -/
theorem fradCp_of_getaddr (parsed : fradGetaddr resolve before str flags = some (.ok addr)) :
    fradCp addr = addr := by
  obtain ⟨a, b, c, d, port, rfl⟩ | ⟨ad6, port, -, rfl⟩ | ⟨name, family, found, port, -, rfl⟩ :=
    getaddr_cases parsed
  · exact fradCp_eq_self (Or.inl rfl) (htons_lt port)
  · exact fradCp_eq_self (Or.inr rfl) (htons_lt port)
  · exact fradCp_eq_self (saFamily_fradCp found) (htons_lt port)

end Family

/-- The family of the address is the given one, if one is. -/
def Suits (flags : Nat) (addr : TpAddr) : Prop :=
  (has flags FRAD_F_IPV4 = true → addr.isIpv6 = false) ∧
    (has flags FRAD_F_IPV4 = false → has flags FRAD_F_IPV6 = true → addr.isIpv6 = true)

instance (flags : Nat) (addr : TpAddr) : Decidable (Suits flags addr) :=
  inferInstanceAs (Decidable ((_ → _) ∧ (_ → _ → _)))

/-- The pair of addresses in the help text of `cmd_conman`. -/
def usagePair : TpAddr × TpAddr :=
  ({ saFamily := AF_INET, ip := 16777226, sinPort := 43525 },
    { saFamily := AF_INET, ip := 33554442, sinPort := 43525 })

section RoundTrip

variable {resolve : Resolver} {before addr : TpAddr} {flags : Nat}

theorem ProperIpv4.isIpv6 (proper : ProperIpv4 addr) : addr.isIpv6 = false := by
  simp [TpAddr.isIpv6, proper.1, AF_INET, AF_INET6]

theorem ProperIpv6.isIpv6 (proper : ProperIpv6 addr) : addr.isIpv6 = true := by
  simp [TpAddr.isIpv6, proper.1]

theorem count_text4 (addr : TpAddr) : (text4 addr).count 58 = 1 := by
  have address : 58 ∉ inetNtop4 (littleEndian 4 addr.ip) := by
    intro member
    exact (isTextByte_inetNtop4 (length_littleEndian 4 addr.ip) 58 member).2 rfl
  have port : 58 ∉ numberText 10 (fradGetport addr) := by
    intro member
    exact (isTextByte_numberText _ (by decide) (by decide) 58 member).2 rfl
  rw [text4, List.count_append, List.count_cons_self, List.count_eq_zero.mpr address,
    List.count_eq_zero.mpr port]

theorem twoColons_text4 (addr : TpAddr) : twoColons (text4 addr) = false := by
  rw [Bool.eq_false_iff, ne_eq, twoColons_iff, count_text4]
  decide

theorem noDigit_nil : NoDigit [] :=
  rfl

/-- An address whose family suits the flags is read as it was written, and no other. -/
theorem getaddr_text_iff (respects : Respects resolve)
    (proper : ProperIpv4 addr ∨ ProperIpv6 addr) (withPort : has flags FRAD_F_NOPORT = false)
    (notDnsv4 : has flags FRAD_F_DNSV4 = false) {text : List UInt8}
    (written : addrText addr = .ok text) :
    fradGetaddr resolve before text flags = some (.ok addr) ↔ Suits flags addr := by
  constructor
  · intro read
    constructor
    · intro ipv4
      exact isIpv6_of_getaddr_ipv4 respects ipv4 read
    · intro notIpv4 ipv6
      exact isIpv6_of_getaddr_ipv6 respects notIpv4 notDnsv4 (Or.inl ipv6) read
  · rintro ⟨onlyIpv4, onlyIpv6⟩
    rw [← List.append_nil text]
    rcases proper with proper | proper
    · rw [addrText_ipv4 proper] at written
      obtain rfl := Except.ok.inj written
      apply getaddr_text4 proper noDigit_nil _ withPort
      cases ipv4 : has flags FRAD_F_IPV4 with
      | true => exact Or.inl rfl
      | false =>
          right
          rw [List.append_nil]
          refine ⟨?_, twoColons_text4 addr⟩
          rw [Bool.eq_false_iff]
          intro ipv6
          have other := onlyIpv6 ipv4 ipv6
          rw [proper.isIpv6] at other
          contradiction
    · rw [addrText_ipv6 proper] at written
      obtain rfl := Except.ok.inj written
      apply getaddr_text6 proper noDigit_nil _ withPort
      rw [Bool.eq_false_iff]
      intro ipv4
      have other := onlyIpv4 ipv4
      rw [proper.isIpv6] at other
      contradiction

theorem length_port_le (addr : TpAddr) : (numberText 10 (fradGetport addr)).length ≤ 5 := by
  have small : fradGetport addr < 2 ^ 16 := htons_lt _
  rw [numberText, List.length_map]
  exact length_numeral_le (by decide) (by decide) (by omega)

/-- A buffer of 50 bytes is large enough for every address. -/
theorem fradSprint_eq {blen : Nat} (proper : ProperIpv4 addr ∨ ProperIpv6 addr)
    (room : 50 ≤ blen) : ∃ text, addrText addr = .ok text ∧ fradSprint blen addr = .ok text := by
  have port := length_port_le addr
  have fits (text : List UInt8) (short : text.length ≤ 49) : text.take (blen - 1) = text :=
    List.take_of_length_le (by omega)
  rcases proper with proper | proper
  · refine ⟨text4 addr, addrText_ipv4 proper, ?_⟩
    have address := length_inetNtop4_le (length_littleEndian 4 addr.ip)
    rw [fradSprint, addrText_ipv4 proper, Except.map, fits]
    rw [text4, List.length_append, List.length_cons]
    omega
  · refine ⟨text6 addr, addrText_ipv6 proper, ?_⟩
    have address := length_inetNtop6_le (length_littleEndian 16 addr.ip)
    rw [fradSprint, addrText_ipv6 proper, Except.map, fits]
    rw [text6, List.length_cons, List.length_append, List.length_cons, List.length_cons]
    omega

/-- What `frad_sprint` prints of an address is read by `frad_getaddr` as the address if and only
if the family that is given, if any, is that of the address. -/
theorem getaddr_sprint_iff {blen : Nat} (respects : Respects resolve)
    (proper : ProperIpv4 addr ∨ ProperIpv6 addr) (withPort : has flags FRAD_F_NOPORT = false)
    (notDnsv4 : has flags FRAD_F_DNSV4 = false) (room : 50 ≤ blen) :
    ∃ text, fradSprint blen addr = .ok text ∧
      (fradGetaddr resolve before text flags = some (.ok addr) ↔ Suits flags addr) := by
  obtain ⟨text, written, printed⟩ := fradSprint_eq proper room
  exact ⟨text, printed, getaddr_text_iff respects proper withPort notDnsv4 written⟩

theorem getaddr_sprint_usage :
    fradSprint 128 usagePair.1 = .ok (ascii "10.0.0.1:1450") ∧
      fradGetaddr noNames usagePair.2 (ascii "10.0.0.1:1450") 0 = some (.ok usagePair.1) ∧
      fradGetaddr noNames usagePair.2 (ascii "10.0.0.1:1450") FRAD_F_IPV6 ≠
        some (.ok usagePair.1) := by
  have printed : fradSprint 128 usagePair.1 = .ok (ascii "10.0.0.1:1450") := by decide
  have proper : ProperIpv4 usagePair.1 := by decide
  have room : 50 ≤ 128 := by decide
  have read (flags : Nat) (withPort : has flags FRAD_F_NOPORT = false)
      (notDnsv4 : has flags FRAD_F_DNSV4 = false) :
      fradGetaddr noNames usagePair.2 (ascii "10.0.0.1:1450") flags = some (.ok usagePair.1) ↔
        Suits flags usagePair.1 := by
    obtain ⟨text, shown, read⟩ :=
      getaddr_sprint_iff respects_noNames (Or.inl proper) withPort notDnsv4 room
    obtain rfl := Except.ok.inj (shown.symm.trans printed)
    exact read
  refine ⟨printed, (read 0 ?_ ?_).mpr ?_, mt (read FRAD_F_IPV6 ?_ ?_).mp ?_⟩ <;> decide

end RoundTrip

/-- An address and its text. -/
structure Written (addr : TpAddr) (text : List UInt8) : Prop where
  proper : ProperIpv4 addr ∨ ProperIpv6 addr
  text : addrText addr = .ok text

theorem written_usageLocal : Written usagePair.1 (ascii "10.0.0.1:1450") :=
  ⟨by decide, by decide⟩

theorem written_usageRemote : Written usagePair.2 (ascii "10.0.0.2:1450") :=
  ⟨by decide, by decide⟩

/-- With a family both addresses of a pair must have it, and without one the first must be an
IPv6 address. -/
def PairSuits (flags : Nat) (pair : TpAddr × TpAddr) : Prop :=
  Suits flags pair.1 ∧ Suits flags pair.2 ∧
    (has flags FRAD_F_IPV4 = false → pair.1.isIpv6 = true)

instance (flags : Nat) (pair : TpAddr × TpAddr) : Decidable (PairSuits flags pair) :=
  inferInstanceAs (Decidable (_ ∧ _ ∧ (_ → _)))

section Pair

variable {resolve : Resolver} {before pair : TpAddr × TpAddr} {addr : TpAddr} {flags : Nat}
  {text first second : List UInt8}

theorem Written.cases (written : Written addr text) :
    ProperIpv4 addr ∧ text = text4 addr ∨ ProperIpv6 addr ∧ text = text6 addr := by
  rcases written.proper with proper | proper
  · left
    exact ⟨proper, (Except.ok.inj ((addrText_ipv4 proper).symm.trans written.text)).symm⟩
  · right
    exact ⟨proper, (Except.ok.inj ((addrText_ipv6 proper).symm.trans written.text)).symm⟩

theorem not_mem_number {byte : UInt8} (other : isTextByte byte = false) (number : Nat) :
    byte ∉ numberText 10 number := by
  intro member
  rw [(isTextByte_numberText number (by decide) (by decide) byte member).1] at other
  contradiction

theorem not_mem_text4 {byte : UInt8} (other : isTextByte byte = false) (addr : TpAddr) :
    byte ∉ text4 addr := by
  intro member
  rcases List.mem_append.mp member with member | member
  · rw [(isTextByte_inetNtop4 (length_littleEndian 4 addr.ip) byte member).1] at other
    contradiction
  · rcases List.mem_cons.mp member with rfl | member
    · contradiction
    · exact not_mem_number other _ member

theorem slash_not_mem_text6 (addr : TpAddr) : 47 ∉ text6 addr := by
  have other : isTextByte 47 = false := by decide
  have address := not_mem_inetNtop6 other addr.ip
  have port := not_mem_number other (fradGetport addr)
  simp [text6, address, port]

/-- The slash behind the text of the first address is the one that is found. -/
theorem index_slash (written : Written addr text) (rest : List UInt8) :
    index (text ++ 47 :: rest) 47 = some (47 :: rest) := by
  have absent : 47 ∉ text := by
    rcases written.cases with ⟨-, rfl⟩ | ⟨-, rfl⟩
    · exact not_mem_text4 (by decide) addr
    · exact slash_not_mem_text6 addr
  rw [index_append_of_not_mem absent, index_cons_self]

theorem one_le_count (written : Written addr text) : 1 ≤ text.count 58 := by
  rcases written.cases with ⟨-, rfl⟩ | ⟨-, rfl⟩
  · rw [count_text4]
  · have colons := two_le_count_text6 addr []
    rw [List.append_nil] at colons
    omega

/-- The text of a pair has two colons whatever the families are. -/
theorem twoColons_pair (local' : Written pair.1 first) (remote : Written pair.2 second) :
    twoColons (first ++ 47 :: second) = true := by
  have front := one_le_count local'
  have back := one_le_count remote
  rw [twoColons_iff, List.count_append, List.count_cons_of_ne (by decide)]
  omega

theorem noDigit_slash (rest : List UInt8) : NoDigit (47 :: rest) :=
  show (!isdigit 47) = true by decide

/-- A pair whose families suit is read as it was written, and no other. -/
theorem getaddrpair_iff (respects : Respects resolve) (withPort : has flags FRAD_F_NOPORT = false)
    (notDnsv4 : has flags FRAD_F_DNSV4 = false) (local' : Written pair.1 first)
    (remote : Written pair.2 second) :
    fradGetaddrpair resolve before (first ++ 47 :: second) flags = some (.ok pair) ↔
      PairSuits flags pair := by
  have remoteRead : fradGetaddr resolve before.2 second flags = some (.ok pair.2) ↔
      Suits flags pair.2 :=
    getaddr_text_iff respects remote.proper withPort notDnsv4 remote.text
  have colons := twoColons_pair local' remote
  constructor
  · intro read
    obtain ⟨parsed, firstRead, rest⟩ := Option.bind_eq_some_iff.mp read
    cases parsed with
    | error ret => cases Option.some.inj rest
    | ok laddr =>
        simp only [index_slash local', Option.orElse_some, List.tail_cons] at rest
        obtain ⟨behind, secondRead, same⟩ := Option.map_eq_some_iff.mp rest
        cases behind with
        | error ret => contradiction
        | ok raddr =>
            obtain rfl := Except.ok.inj same
            refine ⟨⟨?_, ?_⟩, remoteRead.mp secondRead, ?_⟩
            · intro ipv4
              exact isIpv6_of_getaddr_ipv4 respects ipv4 firstRead
            · intro notIpv4 ipv6
              exact isIpv6_of_getaddr_ipv6 respects notIpv4 notDnsv4 (Or.inl ipv6) firstRead
            · intro notIpv4
              exact isIpv6_of_getaddr_ipv6 respects notIpv4 notDnsv4 (Or.inr colons) firstRead
  · rintro ⟨localSuits, remoteSuits, ipv6First⟩
    have firstRead : fradGetaddr resolve before.1 (first ++ 47 :: second) flags =
        some (.ok pair.1) := by
      rcases local'.cases with ⟨proper, rfl⟩ | ⟨proper, rfl⟩
      · apply getaddr_text4 proper (noDigit_slash second) _ withPort
        left
        by_contra notIpv4
        have other := ipv6First (Bool.eq_false_iff.mpr notIpv4)
        rw [proper.isIpv6] at other
        contradiction
      · apply getaddr_text6 proper (noDigit_slash second) _ withPort
        rw [Bool.eq_false_iff]
        intro ipv4
        have other := localSuits.1 ipv4
        rw [proper.isIpv6] at other
        contradiction
    simp only [fradGetaddrpair, firstRead, Option.bind_some, index_slash local',
      Option.orElse_some, List.tail_cons, remoteRead.mpr remoteSuits, Option.map_some, Except.map]

/-- What becomes of a pair whose first address is an IPv4 address when the family is not given:
with an IPv4 address behind it the pair is refused, and with an IPv6 address that one is taken
for both. -/
theorem getaddrpair_ipv4_first (withPort : has flags FRAD_F_NOPORT = false)
    (notIpv4 : has flags FRAD_F_IPV4 = false) (ipv4 : ProperIpv4 pair.1)
    (local' : Written pair.1 first) (remote : Written pair.2 second) :
    fradGetaddrpair resolve before (first ++ 47 :: second) flags =
      some (if pair.2.isIpv6 then .ok (pair.2, pair.2) else .error RERR_INVALID_FORMAT) := by
  have colons := twoColons_pair local' remote
  have taken : fradGetaddr resolve before.1 (first ++ 47 :: second) flags =
      getaddrIpv6 before.1 (first ++ 47 :: second) flags := by
    simp only [fradGetaddr, notIpv4, colons, Bool.or_true, Bool.not_false, Bool.true_and,
      Bool.not_true, Bool.false_eq_true, if_false, if_true]
  obtain rfl : first = text4 pair.1 :=
    (Except.ok.inj ((addrText_ipv4 ipv4).symm.trans local'.text)).symm
  rcases remote.cases with ⟨proper, rfl⟩ | ⟨proper, rfl⟩
  · have noBracket : 91 ∉ text4 pair.1 ++ 47 :: text4 pair.2 := by
      have absent := not_mem_text4 (show isTextByte 91 = false by decide)
      simp [absent]
    have refused : inetPton6 (text4 pair.1 ++ 47 :: text4 pair.2) = none := by
      rw [text4, List.append_assoc, List.cons_append]
      exact inetPton6_inetNtop4 (length_littleEndian 4 pair.1.ip) _
    rw [proper.isIpv6, fradGetaddrpair, taken, getaddrIpv6, index_eq_none noBracket]
    simp only [Option.map_some, refused, Option.bind_some, Bool.false_eq_true, if_false]
  · have noBracket : 91 ∉ text4 pair.1 ++ [47] := by
      have absent := not_mem_text4 (show isTextByte 91 = false by decide) pair.1
      simp [absent]
    have both : text4 pair.1 ++ 47 :: text6 pair.2 =
        text4 pair.1 ++ [47] ++ (text6 pair.2 ++ []) := by
      simp
    have firstRead := getaddrIpv6_text6 before.1 proper noDigit_nil withPort _ noBracket
    rw [← both] at firstRead
    have secondRead : fradGetaddr resolve before.2 (text6 pair.2 ++ []) flags =
        some (.ok pair.2) :=
      getaddr_text6 proper noDigit_nil notIpv4 withPort
    rw [List.append_nil] at secondRead
    simp only [fradGetaddrpair, taken, firstRead, Option.bind_some, index_slash local',
      Option.orElse_some, List.tail_cons, secondRead, Option.map_some, Except.map, proper.isIpv6,
      if_true]

theorem getaddrpair_usage :
    fradGetaddrpair noNames usagePair (ascii "10.0.0.1:1450/10.0.0.2:1450") 0 =
      some (.error RERR_INVALID_FORMAT) := by
  have withPort : has 0 FRAD_F_NOPORT = false := by decide
  have notIpv4 : has 0 FRAD_F_IPV4 = false := by decide
  have ipv4 : ProperIpv4 usagePair.1 := by decide
  exact getaddrpair_ipv4_first withPort notIpv4 ipv4 written_usageLocal written_usageRemote

end Pair

/-- An option of `cmd_conman` behind which the others are read on without an address. -/
def ConmanOpt.isSwitch : ConmanOpt → Bool
  | .debug | .other | .ipv4 | .ipv6 => true
  | .help | .connect _ => false

/-- `addrflags` behind an option. -/
def flagsBehind : ConmanOpt → Nat → Nat
  | .ipv4, _ => FRAD_F_IPV4
  | .ipv6, _ => FRAD_F_IPV6
  | _, addrflags => addrflags

/-- The options ask for the pairs, whose addresses they give as `frad_sprint` prints them. -/
inductive Asks : List ConmanOpt → List (TpAddr × TpAddr) → Prop where
  | nil : Asks [] []
  | switch {option : ConmanOpt} {options : List ConmanOpt} {pairs : List (TpAddr × TpAddr)}
      (isSwitch : option.isSwitch = true) (rest : Asks options pairs) :
      Asks (option :: options) pairs
  | connect {pair : TpAddr × TpAddr} {first second : List UInt8} {options : List ConmanOpt}
      {pairs : List (TpAddr × TpAddr)} (local' : Written pair.1 first)
      (remote : Written pair.2 second) (rest : Asks options pairs) :
      Asks (.connect (first ++ 47 :: second) :: options) (pair :: pairs)

/-- Each pair suits the family that the options before it have given last. -/
def SuitInTurn : List ConmanOpt → Nat → List (TpAddr × TpAddr) → Prop
  | .connect _ :: options, addrflags, pair :: pairs =>
      PairSuits addrflags pair ∧ SuitInTurn options addrflags pairs
  | option :: options, addrflags, pairs => SuitInTurn options (flagsBehind option addrflags) pairs
  | [], _, _ => True

/-- Flags that leave the port in the text and the family of a name open. -/
structure PlainFlags (flags : Nat) : Prop where
  withPort : has flags FRAD_F_NOPORT = false
  notDnsv4 : has flags FRAD_F_DNSV4 = false

section Conman

variable {resolve : Resolver} {before : TpAddr × TpAddr} {option : ConmanOpt}
  {options : List ConmanOpt} {addrList pairs list : List (TpAddr × TpAddr)} {flags : Nat}

theorem plainFlags_ipv4 : PlainFlags FRAD_F_IPV4 :=
  ⟨by decide, by decide⟩

theorem plainFlags_ipv6 : PlainFlags FRAD_F_IPV6 :=
  ⟨by decide, by decide⟩

theorem PlainFlags.behind (plain : PlainFlags flags) (option : ConmanOpt) :
    PlainFlags (flagsBehind option flags) := by
  cases option with
  | ipv4 => exact plainFlags_ipv4
  | ipv6 => exact plainFlags_ipv6
  | _ => exact plain

theorem conmanOptions_switch (isSwitch : option.isSwitch = true) :
    conmanOptions resolve before (option :: options) flags addrList =
      conmanOptions resolve before options (flagsBehind option flags) addrList := by
  cases option with
  | help => contradiction
  | connect optarg => contradiction
  | _ => rfl

theorem suitInTurn_switch (isSwitch : option.isSwitch = true) :
    SuitInTurn (option :: options) flags pairs ↔
      SuitInTurn options (flagsBehind option flags) pairs := by
  cases option with
  | help => contradiction
  | connect optarg => contradiction
  | _ => simp only [SuitInTurn]

theorem fradCppair_of_getaddrpair {str : List UInt8} {pair : TpAddr × TpAddr}
    (parsed : fradGetaddrpair resolve before str flags = some (.ok pair)) :
    fradCppair pair = pair := by
  obtain ⟨first, firstRead, rest⟩ := Option.bind_eq_some_iff.mp parsed
  cases first with
  | error ret => cases Option.some.inj rest
  | ok laddr =>
      simp only at rest
      split at rest
      · cases Option.some.inj rest
      · obtain ⟨second, secondRead, same⟩ := Option.map_eq_some_iff.mp rest
        cases second with
        | error ret => contradiction
        | ok raddr =>
            obtain rfl := Except.ok.inj same
            exact Prod.ext (fradCp_of_getaddr firstRead) (fradCp_of_getaddr secondRead)

/-- An option takes nothing from `addr_list`. -/
theorem prefix_of_conmanOptions
    (parsed : conmanOptions resolve before options flags addrList = some (.ok (some list))) :
    addrList <+: list := by
  induction options generalizing flags addrList with
  | nil =>
      obtain rfl := Option.some.inj (Except.ok.inj (Option.some.inj parsed))
      exact List.prefix_rfl
  | cons option options ih =>
      cases option with
      | help => cases Except.ok.inj (Option.some.inj parsed)
      | connect optarg =>
          obtain ⟨added, -, rest⟩ := Option.bind_eq_some_iff.mp parsed
          cases added with
          | error ret => cases Option.some.inj rest
          | ok pair => exact (List.prefix_append addrList [fradCppair pair]).trans (ih rest)
      | debug => exact ih parsed
      | other => exact ih parsed
      | ipv4 => exact ih parsed
      | ipv6 => exact ih parsed

/-- By induction on the options: what an option adds stays at its place in the list, so a pair
that is read otherwise is not made up for by a later one. -/
theorem conmanOptions_append_iff (respects : Respects resolve) (asks : Asks options pairs)
    (plain : PlainFlags flags) :
    conmanOptions resolve before options flags addrList = some (.ok (some (addrList ++ pairs))) ↔
      SuitInTurn options flags pairs := by
  induction asks generalizing flags addrList with
  | nil => simp [conmanOptions, SuitInTurn]
  | switch isSwitch rest ih =>
      rw [conmanOptions_switch isSwitch, suitInTurn_switch isSwitch]
      exact ih (plain.behind _)
  | @connect pair first second options pairs local' remote rest ih =>
      have pairRead : fradGetaddrpair resolve before (first ++ 47 :: second) flags =
          some (.ok pair) ↔ PairSuits flags pair :=
        getaddrpair_iff respects plain.withPort plain.notDnsv4 local' remote
      rw [SuitInTurn, List.append_cons addrList pair pairs]
      constructor
      · intro parsed
        obtain ⟨added, firstRead, behind⟩ := Option.bind_eq_some_iff.mp parsed
        cases added with
        | error ret => cases Option.some.inj behind
        | ok other =>
            simp only [fradCppair_of_getaddrpair firstRead] at behind
            have same : pair = other := by
              have kept := prefix_of_conmanOptions behind
              rw [List.append_assoc, List.prefix_append_right_inj] at kept
              exact (List.cons_prefix_cons.mp kept).1.symm
            subst same
            exact ⟨pairRead.mp firstRead, (ih plain).mp behind⟩
      · rintro ⟨suits, later⟩
        have firstRead := pairRead.mpr suits
        rw [conmanOptions, firstRead, Option.bind_some]
        simp only [fradCppair_of_getaddrpair firstRead]
        exact (ih plain).mpr later

/-- `cmd_conman` tries exactly the pairs of addresses that its options ask for, in their order,
if and only if each of them suits the family given before it. -/
theorem conmanOptions_iff (respects : Respects resolve) (asks : Asks options pairs) :
    conmanOptions resolve before options 0 [] = some (.ok (some pairs)) ↔
      SuitInTurn options 0 pairs :=
  conmanOptions_append_iff respects asks ⟨by decide, by decide⟩

theorem conmanOptions_usage :
    conmanOptions noNames usagePair
        [.ipv4, .connect (ascii "10.0.0.1:1450/10.0.0.2:1450")] 0 [] =
      some (.ok (some [usagePair])) ∧
    conmanOptions noNames usagePair [.connect (ascii "10.0.0.1:1450/10.0.0.2:1450")] 0 [] ≠
      some (.ok (some [usagePair])) := by
  have asks : Asks [.connect (ascii "10.0.0.1:1450/10.0.0.2:1450")] [usagePair] :=
    .connect written_usageLocal written_usageRemote .nil
  have suits (flags : Nat) :
      SuitInTurn [.connect (ascii "10.0.0.1:1450/10.0.0.2:1450")] flags [usagePair] ↔
        PairSuits flags usagePair := by
    simp only [SuitInTurn, and_true]
  constructor
  · apply (conmanOptions_iff respects_noNames (.switch rfl asks)).mpr
    exact (suits FRAD_F_IPV4).mpr (by decide)
  · apply mt (conmanOptions_iff respects_noNames asks).mp
    rw [suits]
    decide

end Conman

end Tunprox.AddrText
