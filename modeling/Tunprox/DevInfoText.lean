import Tunprox.DeviceRequest
import Tunprox.EventRoundTrip
import Tunprox.PrintBuffer
import Tunprox.WrittenTree

/-!
# The description of a device

`get_devinfo` of `ldt_dev.c` and the functions below it, each of which prints a part of the
description of a device into a buffer, and the text that comes out of it.  What the text says
of the subflows is a single word, and the words for some and for none differ in length.
-/

namespace Tunprox.DevInfo

open Errno ByteBuffer PrintBuffer Device
open Connection (ConnState SubflowAction tpSubflowReport)
open EventRoundTrip (digitBytes decimal runs)
open ElementText (Element Plain IsTag)
open WrittenTree (IsWord isWordByte)

/-- What is printed of a device besides its name and its tunnel. -/
structure DevNumbers where
  mtu : Int
  ctime : Int
  mtime : Int

def hexDigit (digit : Nat) : UInt8 :=
  UInt8.ofNat (if digit < 10 then 48 + digit else 87 + digit)

def hexByte (byte : UInt8) : List UInt8 :=
  [hexDigit (byte.toNat / 16), hexDigit (byte.toNat % 16)]

/-- The conversion `%pI4`. -/
def ip4String (ip : Nat) : List UInt8 :=
  (ascii ".").intercalate ((littleEndian 4 ip).map fun byte => digitBytes byte.toNat)

/-- The groups of the conversion `%pI6`. -/
def ip6Groups : List UInt8 → List (List UInt8)
  | high :: low :: bytes => (hexByte high ++ hexByte low) :: ip6Groups bytes
  | _ => []

/-- The conversion `%pI6`. -/
def ip6String (ip : Nat) : List UInt8 :=
  (ascii ":").intercalate (ip6Groups (littleEndian 16 ip))

/-- The string of `tp_addr_sprt_ip`. -/
def tpAddrSprtIp (addr : TpAddr) : List UInt8 :=
  if addr.isIpv6 then ip6String addr.ip else ip4String addr.ip

/-- The size of `xbuf`. -/
def XBUFSZ : Nat := 48

/-- `MYPRTIP` -/
def myprtip (addr : TpAddr) : List UInt8 :=
  if tpAddrSprtIp addr ≠ [] then (tpAddrSprtIp addr).take (XBUFSZ - 1) else []

/-- The conversion `%*c` of a blank. -/
def blanks (spc : Nat) : List UInt8 :=
  List.replicate (max spc 1) 32

/-- A line with an element that holds a text. -/
def elementLine (spc : Nat) (element : Element) : List UInt8 :=
  blanks spc ++ ascii "<" ++ element.tag ++ ascii ">" ++ element.text ++ ascii "</" ++
    element.tag ++ ascii ">\n"

def anyAddr (addr : TpAddr) : List UInt8 :=
  if addr.isIpv6 then ascii "::" else ascii "0.0.0.0"

def portText (addr : TpAddr) : List UInt8 :=
  digitBytes (tpAddrGetport addr)

def locaddrElements (tad : TunAddr) : List Element :=
  if !tad.bound then [⟨ascii "locaddr", ascii "unbound"⟩]
  else if tad.anyladdr then
    [⟨ascii "locaddr", anyAddr tad.laddr⟩, ⟨ascii "actlocaddr", myprtip tad.laddr⟩]
  else [⟨ascii "locaddr", myprtip tad.laddr⟩]

def locportElements (tad : TunAddr) : List Element :=
  if !tad.bound then []
  else if tad.anylport then
    [⟨ascii "locport", ascii "0"⟩, ⟨ascii "actlocport", portText tad.laddr⟩]
  else [⟨ascii "locport", portText tad.laddr⟩]

def remaddrElements (tad : TunAddr) : List Element :=
  if tad.anyraddr then
    [⟨ascii "remaddr", anyAddr tad.raddr⟩, ⟨ascii "remport", ascii "0"⟩] ++
      if tad.hasraddr then
        [⟨ascii "actremaddr", myprtip tad.raddr⟩, ⟨ascii "actremport", portText tad.raddr⟩]
      else []
  else [⟨ascii "remaddr", myprtip tad.raddr⟩, ⟨ascii "remport", portText tad.raddr⟩]

def tunaddrElements (tad : TunAddr) : List Element :=
  locaddrElements tad ++ locportElements tad ++ remaddrElements tad

/-- The lines of `ldt_tunaddr_prt`. -/
def tunaddrLines (tad : TunAddr) (spc : Nat) : List (List UInt8) :=
  (if tad.laddr.isIpv6 then [blanks spc ++ ascii "<ipv6/>\n"] else []) ++
    (tunaddrElements tad).map (elementLine spc)

def ldtTunaddrPrt (tad : TunAddr) (spc : Nat) : Printer :=
  printAll (tunaddrLines tad spc)

def typeText (tdat : Mpdccptun) : List UInt8 :=
  (if tdat.ismpdccp then ascii "mp" else []) ++ ascii "dccp" ++
    if tdat.ipv6 then ascii "6" else ascii "4"

def statusText (numSubflow : Nat) (pdevdown : Bool) : List UInt8 :=
  (if 0 < numSubflow then ascii "up" else ascii "down") ++ ascii "," ++
    (if pdevdown then ascii "pdevdown" else ascii "pdevup") ++ ascii ",tunup,ifup"

/-- `mpdccptun_getinfo` -/
def mpdccptunGetinfo (tdat : Mpdccptun) (pdevdown : Bool) : Except Int Printer :=
  if tdat.tostop then .error (-EPERM)
  else
    .ok (andThen (printAll [elementLine 4 ⟨ascii "type", typeText tdat⟩])
      (andThen (ldtTunaddrPrt tdat.addr 4)
        (printAll [elementLine 4 ⟨ascii "status", statusText tdat.numSubflow pdevdown⟩,
          blanks 4 ++ ascii "<subflowlist>\n", blanks 4 ++ ascii "</subflowlist>\n"])))

/-- `ldt_tun_gettuninfo` -/
def ldtTunGettuninfo (tun : LdtTun) : Except Int Printer :=
  match tun.tunops with
  | none => .ok (printAll [])
  | some _ =>
      match tun.tundata with
      | none => .error (-EINVAL)
      | some state => mpdccptunGetinfo state.tdat tun.pdevdown

/-- The lines before those of the tunnel; a name ends at its zero byte. -/
def devLines (name : List UInt8) (numbers : DevNumbers) : List (List UInt8) :=
  [ascii "<dev name=\"" ++ cstring name ++ ascii "\">\n",
    elementLine 2 ⟨ascii "mtu", decimal numbers.mtu⟩,
    blanks 2 ++ ascii "<ctime>" ++ decimal numbers.ctime ++ ascii "</ctime>" ++
      ascii "<mtime>" ++ decimal numbers.mtime ++ ascii "</mtime>\n",
    blanks 2 ++ ascii "<tun>\n"]

def devEndLines : List (List UInt8) :=
  [blanks 2 ++ ascii "</tun>\n", ascii "</dev>\n"]

/-- `get_devinfo` -/
def getDevinfo (name : List UInt8) (numbers : DevNumbers) (tdev : LdtDev) :
    Except Int Printer :=
  if !tdev.active then .error (-EINVAL)
  else
    .ok (andThen (printAll (devLines name numbers))
      (andThen
        (match ldtTunGettuninfo tdev.tun with
          | .error _ => printAll []
          | .ok printer => printer)
        (printAll devEndLines)))

/-- The lines of a tunnel that is not stopped. -/
def mpdccptunLines (tdat : Mpdccptun) (pdevdown : Bool) : List (List UInt8) :=
  [elementLine 4 ⟨ascii "type", typeText tdat⟩] ++ (tunaddrLines tdat.addr 4 ++
    [elementLine 4 ⟨ascii "status", statusText tdat.numSubflow pdevdown⟩,
      blanks 4 ++ ascii "<subflowlist>\n", blanks 4 ++ ascii "</subflowlist>\n"])

/-- The lines between `<tun>` and `</tun>`. -/
def tunLines (tun : LdtTun) : List (List UInt8) :=
  match tun.tunops, tun.tundata with
  | some _, some state =>
      if state.tdat.tostop then [] else mpdccptunLines state.tdat tun.pdevdown
  | _, _ => []

/-- The description of a device with the tunnel. -/
def devText (name : List UInt8) (numbers : DevNumbers) (tun : LdtTun) : List UInt8 :=
  (devLines name numbers ++ (tunLines tun ++ devEndLines)).flatten

theorem mpdccptunGetinfo_eq (tdat : Mpdccptun) (pdevdown : Bool) (running : tdat.tostop = false) :
    mpdccptunGetinfo tdat pdevdown = .ok (printAll (mpdccptunLines tdat pdevdown)) := by
  have go : ¬ tdat.tostop = true := by
    rw [running]
    exact Bool.false_ne_true
  rw [mpdccptunGetinfo, if_neg go, ldtTunaddrPrt, printAll_append, printAll_append]
  rfl

/-- Without a tunnel, and if the tunnel gives an error, no line is printed of it. -/
theorem ldtTunGettuninfo_eq (tun : LdtTun) :
    (match ldtTunGettuninfo tun with
      | .error _ => printAll []
      | .ok printer => printer) = printAll (tunLines tun) := by
  unfold ldtTunGettuninfo tunLines
  cases tun.tunops with
  | none => rfl
  | some tunops =>
      cases tun.tundata with
      | none => rfl
      | some state =>
          cases stopped : state.tdat.tostop with
          | true => simp [mpdccptunGetinfo, stopped]
          | false => simp [mpdccptunGetinfo_eq _ _ stopped, stopped]

/-- A tunnel that is there and not stopped. -/
theorem exists_tunops_of_runs {tun : LdtTun} {state : ConnState} (running : runs tun = true)
    (tundata : tun.tundata = some state) :
    ∃ tunops, tun.tunops = some tunops ∧ ¬ state.tdat.tostop = true := by
  rw [runs, Bool.and_eq_true, Option.isSome_iff_exists, tundata, Option.any_some] at running
  obtain ⟨⟨tunops, found⟩, go⟩ := running
  exact ⟨tunops, found, by simpa using go⟩

theorem tostop_of_stopped {tun : LdtTun} {tunops : LdtTunops} {state : ConnState}
    (stopped : runs tun = false) (found : tun.tunops = some tunops)
    (tundata : tun.tundata = some state) : state.tdat.tostop = true := by
  simpa [runs, found, tundata] using stopped

theorem tunLines_of_runs {tun : LdtTun} {state : ConnState} (running : runs tun = true)
    (tundata : tun.tundata = some state) :
    tunLines tun = mpdccptunLines state.tdat tun.pdevdown := by
  obtain ⟨tunops, found, go⟩ := exists_tunops_of_runs running tundata
  simp only [tunLines, found, tundata, if_neg go]

theorem tunLines_of_stopped {tun : LdtTun} (stopped : runs tun = false) : tunLines tun = [] := by
  unfold tunLines
  split
  · rename_i found tundata
    exact if_pos (tostop_of_stopped stopped found tundata)
  · rfl

/-- All the calls print one text. -/
theorem getDevinfo_eq (name : List UInt8) (numbers : DevNumbers) (tdev : LdtDev)
    (active : tdev.active = true) :
    getDevinfo name numbers tdev = .ok (snprintf (devText name numbers tdev.tun)) := by
  have go : ¬ (!tdev.active) = true := by
    rw [active]
    exact Bool.false_ne_true
  rw [getDevinfo, if_neg go, ldtTunGettuninfo_eq, printAll_append, printAll_append, devLines,
    List.cons_append, printAll_cons]
  rfl

/-- The tunnel with other subflows. -/
def withSubflows (tun : LdtTun) (subflow : List (List UInt8)) (bufsz : Nat) : LdtTun :=
  { tun with
    tundata := tun.tundata.map fun state =>
      { state with tdat := { state.tdat with subflow := subflow, bufszSubflow := bufsz } } }

def linkUp (tun : LdtTun) : Bool :=
  tun.tundata.any fun state => 0 < state.tdat.numSubflow

theorem runs_withSubflows (tun : LdtTun) (subflow : List (List UInt8)) (bufsz : Nat) :
    runs (withSubflows tun subflow bufsz) = runs tun := by
  unfold runs withSubflows
  cases tun.tundata with
  | none => rfl
  | some state => rfl

theorem exists_tundata {tun : LdtTun} (running : runs tun = true) :
    ∃ state, tun.tundata = some state := by
  cases tundata : tun.tundata with
  | none => simp [runs, tundata] at running
  | some state => exact ⟨state, rfl⟩

/-- A tunnel whose state is printed has subflows in the one look, and none in the other. -/
def LosesLink (sized printed : LdtTun) : Prop :=
  runs sized = true ∧ linkUp sized = true ∧ linkUp printed = false

theorem length_statusText (numSubflow : Nat) (pdevdown : Bool) :
    (statusText numSubflow pdevdown).length =
      (if 0 < numSubflow then 2 else 4) + if pdevdown then 20 else 18 := by
  have words : (ascii "up").length = 2 ∧ (ascii "down").length = 4 ∧
      (ascii ",").length = 1 ∧ (ascii "pdevdown").length = 8 ∧
        (ascii "pdevup").length = 6 ∧ (ascii ",tunup,ifup").length = 11 := by decide
  unfold statusText
  cases pdevdown <;> split <;> simp [words]

theorem length_elementLine (spc : Nat) (tag text : List UInt8) :
    (elementLine spc ⟨tag, text⟩).length = (elementLine spc ⟨tag, []⟩).length + text.length := by
  simp only [elementLine, List.length_append, List.length_nil]
  omega

/-- The lines of a tunnel are two bytes shorter if it has subflows. -/
theorem length_mpdccptunLines (tdat : Mpdccptun) (pdevdown : Bool)
    (subflow : List (List UInt8)) (bufsz : Nat) :
    (mpdccptunLines { tdat with subflow := subflow, bufszSubflow := bufsz }
          pdevdown).flatten.length +
        (if 0 < subflow.length then 2 else 0) =
      (mpdccptunLines tdat pdevdown).flatten.length +
        if 0 < tdat.subflow.length then 2 else 0 := by
  have sameType : typeText { tdat with subflow := subflow, bufszSubflow := bufsz } =
      typeText tdat := rfl
  have word : ∀ count : Nat,
      (if 0 < count then 2 else 4) + (if 0 < count then 2 else 0) = 4 := by
    intro count
    split <;> rfl
  have before := word tdat.subflow.length
  have after := word subflow.length
  simp only [mpdccptunLines, sameType, List.flatten_append, List.flatten_cons, List.length_append,
    length_elementLine 4 (ascii "status") (statusText _ _), length_statusText, Mpdccptun.numSubflow]
  omega

/-- So is the description of a device with such a tunnel. -/
theorem length_devText_withSubflows (name : List UInt8) (numbers : DevNumbers) (tun : LdtTun)
    (subflow : List (List UInt8)) (bufsz : Nat) :
    (devText name numbers (withSubflows tun subflow bufsz)).length +
        (if runs tun = true ∧ linkUp (withSubflows tun subflow bufsz) = true then 2 else 0) =
      (devText name numbers tun).length +
        if runs tun = true ∧ linkUp tun = true then 2 else 0 := by
  have lengths : ∀ tun : LdtTun, (devText name numbers tun).length =
      (devLines name numbers).flatten.length +
        ((tunLines tun).flatten.length + devEndLines.flatten.length) := by
    intro tun
    simp only [devText, List.flatten_append, List.length_append]
  rw [lengths, lengths]
  have same := runs_withSubflows tun subflow bufsz
  cases running : runs tun with
  | false =>
      rw [running] at same
      simp [tunLines_of_stopped running, tunLines_of_stopped same]
  | true =>
      rw [running] at same
      obtain ⟨state, tundata⟩ := exists_tundata running
      have changed : (withSubflows tun subflow bufsz).tundata = some
          { state with tdat := { state.tdat with subflow := subflow, bufszSubflow := bufsz } } := by
        rw [withSubflows, tundata, Option.map_some]
      have lines := length_mpdccptunLines state.tdat tun.pdevdown subflow bufsz
      rw [tunLines_of_runs running tundata, tunLines_of_runs same changed, linkUp, linkUp,
        tundata, changed]
      simp only [Option.any_some, decide_eq_true_eq, true_and]
      simp only [Mpdccptun.numSubflow, withSubflows]
      by_cases before : 0 < state.tdat.subflow.length <;>
        by_cases after : 0 < subflow.length <;>
          simp only [before, after, if_true, if_false] at lines ⊢ <;> omega

/-- A byte of a word in ASCII. -/
def isPrintedByte (byte : UInt8) : Bool :=
  isWordByte byte && byte < 127 && 32 < byte

/-- A word in ASCII, as all words in the description of a device are. -/
structure IsPrinted (text : List UInt8) : Prop where
  nonempty : text ≠ []
  bytes : ∀ byte ∈ text, isPrintedByte byte = true

instance (text : List UInt8) : Decidable (IsPrinted text) :=
  decidable_of_iff (text ≠ [] ∧ text.all isPrintedByte = true)
    ⟨fun printed => ⟨printed.1, List.all_eq_true.mp printed.2⟩,
      fun printed => ⟨printed.nonempty, List.all_eq_true.mpr printed.bytes⟩⟩

theorem IsPrinted.isWord {text : List UInt8} (printed : IsPrinted text) : IsWord text where
  nonempty := printed.nonempty
  bytes := fun byte member => by
    have graphic := printed.bytes byte member
    rw [isPrintedByte, Bool.and_eq_true, Bool.and_eq_true] at graphic
    exact graphic.1.1

theorem IsPrinted.append {first second : List UInt8} (one : IsPrinted first)
    (two : IsPrinted second) : IsPrinted (first ++ second) where
  nonempty := List.append_ne_nil_of_left_ne_nil one.nonempty second
  bytes := List.forall_mem_append.mpr ⟨one.bytes, two.bytes⟩

theorem IsPrinted.take {text : List UInt8} (printed : IsPrinted text) (count : Nat) :
    IsPrinted (text.take (count + 1)) where
  nonempty := by
    obtain ⟨first, rest, rfl⟩ := List.exists_cons_of_ne_nil printed.nonempty
    exact List.cons_ne_nil _ _
  bytes := fun byte member => printed.bytes byte (List.mem_of_mem_take member)

/-- Words with a word between each two of them. -/
theorem isPrinted_intercalate {separator : List UInt8} {words : List (List UInt8)}
    (isSeparator : IsPrinted separator) (nonempty : words ≠ [])
    (all : ∀ word ∈ words, IsPrinted word) : IsPrinted (separator.intercalate words) := by
  induction words with
  | nil => exact absurd rfl nonempty
  | cons word words ih =>
      have head := all word List.mem_cons_self
      cases words with
      | nil => simpa [List.intercalate] using head
      | cons next words =>
          have tail := ih (List.cons_ne_nil _ _)
            fun other member => all other (List.mem_cons_of_mem _ member)
          have split : separator.intercalate (word :: next :: words) =
              word ++ (separator ++ separator.intercalate (next :: words)) := by
            simp [List.intercalate]
          rw [split]
          exact head.append (isSeparator.append tail)

theorem isPrinted_digitBytes (number : Nat) : IsPrinted (digitBytes number) := by
  unfold digitBytes
  split
  · decide
  · rename_i nonzero
    refine ⟨?_, ?_⟩
    · intro empty
      rw [List.map_eq_nil_iff, List.reverse_eq_nil_iff] at empty
      exact Nat.digits_ne_nil_iff_ne_zero.mpr nonzero empty
    · intro byte member
      obtain ⟨digit, digitMem, rfl⟩ := List.mem_map.mp member
      have small : digit < 10 := Nat.digits_lt_base (by decide) (List.mem_reverse.mp digitMem)
      interval_cases digit <;> rfl

theorem isPrinted_decimal (value : Int) : IsPrinted (decimal value) := by
  have digits := isPrinted_digitBytes value.natAbs
  unfold decimal
  split
  · exact IsPrinted.append (show IsPrinted [45] by decide) digits
  · exact digits

theorem isPrinted_hexByte (byte : UInt8) : IsPrinted (hexByte byte) := by
  have digit : ∀ number < 16, isPrintedByte (hexDigit number) = true := by
    intro number small
    interval_cases number <;> decide
  have bound := byte.toNat_lt
  refine ⟨List.cons_ne_nil _ _, ?_⟩
  intro other member
  simp only [hexByte, List.mem_cons, List.not_mem_nil, or_false] at member
  rcases member with rfl | rfl
  · exact digit _ (by omega)
  · exact digit _ (by omega)

theorem isPrinted_ip6Groups (bytes : List UInt8) : ∀ group ∈ ip6Groups bytes, IsPrinted group := by
  induction bytes using ip6Groups.induct with
  | case1 high low bytes ih =>
      intro group member
      rcases List.mem_cons.mp member with rfl | later
      · exact (isPrinted_hexByte high).append (isPrinted_hexByte low)
      · exact ih group later
  | case2 bytes short =>
      intro group member
      rw [ip6Groups.eq_2 bytes short] at member
      contradiction

theorem isPrinted_tpAddrSprtIp (addr : TpAddr) : IsPrinted (tpAddrSprtIp addr) := by
  unfold tpAddrSprtIp
  split
  · exact isPrinted_intercalate (by decide) (List.cons_ne_nil _ _) (isPrinted_ip6Groups _)
  · refine isPrinted_intercalate (by decide) (List.cons_ne_nil _ _) ?_
    intro part member
    obtain ⟨byte, -, rfl⟩ := List.mem_map.mp member
    exact isPrinted_digitBytes _

theorem isPrinted_myprtip (addr : TpAddr) : IsPrinted (myprtip addr) := by
  have printed := isPrinted_tpAddrSprtIp addr
  rw [myprtip, if_pos printed.nonempty]
  exact printed.take _

theorem isPrinted_anyAddr (addr : TpAddr) : IsPrinted (anyAddr addr) := by
  unfold anyAddr
  split
  · decide
  · decide

theorem isPrinted_typeText (tdat : Mpdccptun) : IsPrinted (typeText tdat) := by
  unfold typeText
  split <;> split <;> decide

theorem isPrinted_statusText (numSubflow : Nat) (pdevdown : Bool) :
    IsPrinted (statusText numSubflow pdevdown) := by
  unfold statusText
  split <;> split <;> decide

/-- Each element of `ldt_tunaddr_prt` holds a word. -/
theorem isPrinted_tunaddrElements (tad : TunAddr) :
    ∀ element ∈ tunaddrElements tad, IsPrinted element.text := by
  have port (addr : TpAddr) : IsPrinted (portText addr) := isPrinted_digitBytes _
  have words : IsPrinted (ascii "unbound") ∧ IsPrinted (ascii "0") := by decide
  unfold tunaddrElements locaddrElements locportElements remaddrElements
  simp only [List.forall_mem_append]
  refine ⟨⟨?_, ?_⟩, ?_⟩
  · split_ifs <;> simp [words, isPrinted_anyAddr, isPrinted_myprtip]
  · split_ifs <;> simp [words, port]
  · split_ifs <;> simp [words, port, isPrinted_anyAddr, isPrinted_myprtip]

/-- The elements that `ldt_tunaddr_prt` can print. -/
def addrTags : List (List UInt8) :=
  [ascii "locaddr", ascii "actlocaddr", ascii "locport", ascii "actlocport", ascii "remaddr",
    ascii "remport", ascii "actremaddr", ascii "actremport"]

theorem tag_mem_addrTags (tad : TunAddr) :
    ∀ element ∈ tunaddrElements tad, element.tag ∈ addrTags := by
  unfold tunaddrElements locaddrElements locportElements remaddrElements addrTags
  simp only [List.forall_mem_append]
  refine ⟨⟨?_, ?_⟩, ?_⟩
  · split_ifs <;> simp
  · split_ifs <;> simp
  · split_ifs <;> simp

theorem isTag_tunaddrElements (tad : TunAddr) :
    ∀ element ∈ tunaddrElements tad, IsTag element.tag := by
  have tags : ∀ tag ∈ addrTags, IsTag tag := by decide
  intro element member
  exact tags _ (tag_mem_addrTags tad element member)

/-- A byte of the lines of a description, but for the name. -/
def isLineByte (byte : UInt8) : Bool :=
  byte == 10 || 32 ≤ byte && byte < 127

theorem all_blanks (spc : Nat) : (blanks spc).all isLineByte = true := by
  rw [List.all_eq_true]
  intro byte member
  rw [List.eq_of_mem_replicate member]
  rfl

theorem IsPrinted.all_line {text : List UInt8} (printed : IsPrinted text) :
    text.all isLineByte = true := by
  rw [List.all_eq_true]
  intro byte member
  have graphic := printed.bytes byte member
  simp only [isPrintedByte, Bool.and_eq_true, decide_eq_true_eq] at graphic
  have above : 32 ≤ byte := UInt8.le_of_lt graphic.2
  simp [isLineByte, above, graphic.1.2]

theorem all_isTag {tag : List UInt8} (isTag : IsTag tag) : tag.all isLineByte = true := by
  rw [List.all_eq_true]
  intro byte member
  obtain ⟨lower, upper⟩ := isTag.2 byte member
  have above : 32 ≤ byte := UInt8.le_trans (by decide) lower
  have below : byte < 127 := UInt8.lt_of_le_of_lt upper (by decide)
  simp [isLineByte, above, below]

theorem all_elementLine (spc : Nat) {element : Element} (isTag : IsTag element.tag)
    (printed : IsPrinted element.text) : (elementLine spc element).all isLineByte = true := by
  have marks : (ascii "<").all isLineByte = true ∧ (ascii ">").all isLineByte = true ∧
      (ascii "</").all isLineByte = true ∧ (ascii ">\n").all isLineByte = true := by decide
  simp only [elementLine, List.all_append, all_blanks, all_isTag isTag, printed.all_line, marks,
    Bool.and_self]

/-- The lines of a tunnel. -/
theorem all_tunLines (tun : LdtTun) : (tunLines tun).flatten.all isLineByte = true := by
  have tags : IsTag (ascii "type") ∧ IsTag (ascii "status") := by decide
  have marks : (ascii "<ipv6/>\n").all isLineByte = true ∧
      (ascii "<subflowlist>\n").all isLineByte = true ∧
        (ascii "</subflowlist>\n").all isLineByte = true := by decide
  cases running : runs tun with
  | false =>
      rw [tunLines_of_stopped running]
      rfl
  | true =>
      obtain ⟨state, tundata⟩ := exists_tundata running
      have addresses :
          ((tunaddrElements state.tdat.addr).map (elementLine 4)).flatten.all isLineByte =
            true := by
        rw [List.all_flatten, List.all_map, List.all_eq_true]
        intro element member
        exact all_elementLine 4 (isTag_tunaddrElements _ element member)
          (isPrinted_tunaddrElements _ element member)
      have ipv6 : (if state.tdat.addr.laddr.isIpv6 then [blanks 4 ++ ascii "<ipv6/>\n"]
          else []).flatten.all isLineByte = true := by
        split
        · simp only [List.flatten_cons, List.flatten_nil, List.append_nil, List.all_append,
            all_blanks, marks, Bool.and_self]
        · rfl
      have typeLine :
          (elementLine 4 ⟨ascii "type", typeText state.tdat⟩).all isLineByte = true :=
        all_elementLine 4 tags.1 (isPrinted_typeText _)
      have statusLine : (elementLine 4 ⟨ascii "status",
          statusText state.tdat.numSubflow tun.pdevdown⟩).all isLineByte = true :=
        all_elementLine 4 tags.2 (isPrinted_statusText _ _)
      rw [tunLines_of_runs running tundata, mpdccptunLines, tunaddrLines]
      simp only [List.flatten_append, List.flatten_cons, List.flatten_nil, List.append_nil,
        List.all_append, addresses, ipv6, all_blanks, marks, typeLine, statusLine,
        Bool.and_self]

/-- What is printed between the two tags of a device. -/
def devBody (numbers : DevNumbers) (tun : LdtTun) : List UInt8 :=
  elementLine 2 ⟨ascii "mtu", decimal numbers.mtu⟩ ++
    (blanks 2 ++ ascii "<ctime>" ++ decimal numbers.ctime ++ ascii "</ctime>" ++
      ascii "<mtime>" ++ decimal numbers.mtime ++ ascii "</mtime>\n" ++
    (blanks 2 ++ ascii "<tun>\n" ++
      ((tunLines tun).flatten ++ (blanks 2 ++ ascii "</tun>\n"))))

theorem devText_eq (name : List UInt8) (numbers : DevNumbers) (tun : LdtTun) :
    devText name numbers tun = ascii "<dev name=\"" ++ (cstring name ++ (ascii "\">\n" ++
      (devBody numbers tun ++ ascii "</dev>\n"))) := by
  simp only [devText, devLines, devEndLines, devBody, List.flatten_append, List.flatten_cons,
    List.flatten_nil, List.append_nil, List.append_assoc]

theorem all_devBody (numbers : DevNumbers) (tun : LdtTun) :
    (devBody numbers tun).all isLineByte = true := by
  have tag : IsTag (ascii "mtu") := by decide
  have marks : (ascii "<ctime>").all isLineByte = true ∧
      (ascii "</ctime>").all isLineByte = true ∧ (ascii "<mtime>").all isLineByte = true ∧
        (ascii "</mtime>\n").all isLineByte = true ∧ (ascii "<tun>\n").all isLineByte = true ∧
          (ascii "</tun>\n").all isLineByte = true := by decide
  have number (value : Int) : (decimal value).all isLineByte = true :=
    (isPrinted_decimal value).all_line
  have mtu : (elementLine 2 ⟨ascii "mtu", decimal numbers.mtu⟩).all isLineByte = true :=
    all_elementLine 2 tag (isPrinted_decimal numbers.mtu)
  simp only [devBody, List.all_append, all_blanks, number, mtu, marks, all_tunLines,
    Bool.and_self]

/-- A description is a string. -/
theorem nonzero_devText (name : List UInt8) (numbers : DevNumbers) (tun : LdtTun) :
    (0 : UInt8) ∉ devText name numbers tun := by
  have nameFree : (0 : UInt8) ∉ cstring name := by
    intro member
    simpa using List.all_eq_true.mp List.all_takeWhile 0 member
  have bodyFree : (0 : UInt8) ∉ devBody numbers tun := by
    intro member
    exact absurd (List.all_eq_true.mp (all_devBody numbers tun) 0 member) (by decide)
  have marks : (0 : UInt8) ∉ ascii "<dev name=\"" ∧ (0 : UInt8) ∉ ascii "\">\n" ∧
      (0 : UInt8) ∉ ascii "</dev>\n" := by decide
  rw [devText_eq]
  simp only [List.mem_append, nameFree, bodyFree, marks, or_self, not_false_eq_true]

end Tunprox.DevInfo
