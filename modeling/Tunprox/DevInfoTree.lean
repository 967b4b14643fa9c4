import Tunprox.DevInfoText

/-!
# The description of a device as a tree

What a parser makes of the description of a device: the elements that are printed line by
line, as a tree below the element `dev`.  The element `tun` has nothing in it if there is no
tunnel, and also if the tunnel is stopped.
-/

namespace Tunprox.DevInfo

open ByteBuffer Device
open Connection (ConnState)
open EventRoundTrip (decimal runs)
open ElementText (Element Plain IsTag)
open WrittenTree

def elementTree (element : Element) : Tree :=
  .tag element.tag [] [.text element.text]

def tunaddrTrees (tad : TunAddr) : List Tree :=
  (if tad.laddr.isIpv6 then [.tag (ascii "ipv6") [] []] else []) ++
    (tunaddrElements tad).map elementTree

def mpdccptunTrees (tdat : Mpdccptun) (pdevdown : Bool) : List Tree :=
  [elementTree ⟨ascii "type", typeText tdat⟩] ++ (tunaddrTrees tdat.addr ++
    [elementTree ⟨ascii "status", statusText tdat.numSubflow pdevdown⟩,
      .tag (ascii "subflowlist") [] []])

/-- What is below the element `tun`. -/
def tunTrees (tun : LdtTun) : List Tree :=
  match tun.tunops, tun.tundata with
  | some _, some state =>
      if state.tdat.tostop then [] else mpdccptunTrees state.tdat tun.pdevdown
  | _, _ => []

def devTree (name : List UInt8) (numbers : DevNumbers) (tun : LdtTun) : Tree :=
  .tag (ascii "dev") [(ascii "name", cstring name)]
    [elementTree ⟨ascii "mtu", decimal numbers.mtu⟩,
      elementTree ⟨ascii "ctime", decimal numbers.ctime⟩,
      elementTree ⟨ascii "mtime", decimal numbers.mtime⟩, .tag (ascii "tun") [] (tunTrees tun)]

theorem tunTrees_of_runs {tun : LdtTun} {state : ConnState} (running : runs tun = true)
    (tundata : tun.tundata = some state) :
    tunTrees tun = mpdccptunTrees state.tdat tun.pdevdown := by
  obtain ⟨tunops, found, go⟩ := exists_tunops_of_runs running tundata
  simp only [tunTrees, found, tundata, if_neg go]

theorem tunTrees_of_stopped {tun : LdtTun} (stopped : runs tun = false) : tunTrees tun = [] := by
  unfold tunTrees
  split
  · rename_i found tundata
    exact if_pos (tostop_of_stopped stopped found tundata)
  · rfl

theorem white_blanks (spc : Nat) : White (blanks spc) := by
  intro byte member
  rw [List.eq_of_mem_replicate member]
  rfl

theorem white_newline : White [10] := by
  intro byte member
  rw [List.mem_singleton.mp member]
  rfl

theorem isHead_of_isTag {name : List UInt8} (isTag : IsTag name) : IsHead name [] where
  name := .of_isTag isTag
  vars := List.forall_mem_nil _
  values := List.forall_mem_nil _

section
variable {outer : List (List UInt8)}

/-- An element that holds a word, between white space. -/
theorem writes_element {before behind : List UInt8} (beforeWhite : White before)
    (behindWhite : White behind) {element : Element} (isTag : IsTag element.tag)
    (fresh : element.tag ∉ outer) (word : IsWord element.text) :
    Writes outer [elementTree element]
      (before ++ [60] ++ element.tag ++ [62] ++ element.text ++ [60, 47] ++ element.tag ++ [62] ++
        behind) := by
  have line : before ++ [60] ++ element.tag ++ [62] ++ element.text ++ [60, 47] ++ element.tag ++
      [62] ++ behind = before ++ (opening element.tag [] ++
        (element.text ++ (closing element.tag ++ behind))) := by
    simp [opening, closing, tagHead, attrsText]
  rw [line]
  exact .leaf beforeWhite (isHead_of_isTag isTag) fresh word.isText (.white behindWhite)

theorem writes_elementLine (spc : Nat) {element : Element} (isTag : IsTag element.tag)
    (fresh : element.tag ∉ outer) (word : IsWord element.text) :
    Writes outer [elementTree element] (elementLine spc element) := by
  have marks : ascii "<" = [60] ∧ ascii ">" = [62] ∧ ascii "</" = [60, 47] ∧
      ascii ">\n" = [62] ++ [10] := by decide
  have line := writes_element (white_blanks spc) white_newline isTag fresh word
  simpa only [elementLine, marks, List.append_assoc] using line

/-- Elements, each on a line of its own. -/
theorem writes_elementLines (spc : Nat) {elements : List Element}
    (tags : ∀ element ∈ elements, IsTag element.tag)
    (fresh : ∀ element ∈ elements, element.tag ∉ outer)
    (words : ∀ element ∈ elements, IsWord element.text) :
    Writes outer (elements.map elementTree) (elements.map (elementLine spc)).flatten := by
  induction elements with
  | nil => exact .white (List.forall_mem_nil _)
  | cons element elements ih =>
      rw [List.forall_mem_cons] at tags fresh words
      have here : Writes outer [elementTree element] (elementLine spc element) :=
        writes_elementLine spc tags.1 fresh.1 words.1
      exact here.append (ih tags.2 fresh.2 words.2)

/-- An element whose two tags are on lines of their own. -/
theorem writes_block (spc spc' : Nat) {name inner : List UInt8} {subs : List Tree}
    (isTag : IsTag name) (fresh : name ∉ outer) (inside : Writes (name :: outer) subs inner) :
    Writes outer [.tag name [] subs]
      (blanks spc ++ [60] ++ name ++ [62, 10] ++ (inner ++ (blanks spc' ++ [60, 47] ++ name ++
        [62, 10]))) := by
  have line : blanks spc ++ [60] ++ name ++ [62, 10] ++ (inner ++ (blanks spc' ++ [60, 47] ++
      name ++ [62, 10])) = blanks spc ++ (opening name [] ++
        (([10] ++ (inner ++ blanks spc')) ++ (closing name ++ [10]))) := by
    simp [opening, closing, tagHead, attrsText]
  have lines := inside.append (.white (white_blanks spc'))
  rw [List.append_nil] at lines
  rw [line]
  exact .node (white_blanks spc) (isHead_of_isTag isTag) fresh
    (lines.white_append white_newline) (.white white_newline)

end

theorem writes_tunaddrLines {outer : List (List UInt8)} (tad : TunAddr)
    (fresh : ∀ tag ∈ ascii "ipv6" :: addrTags, tag ∉ outer) :
    Writes outer (tunaddrTrees tad) (tunaddrLines tad 4).flatten := by
  rw [List.forall_mem_cons] at fresh
  rw [tunaddrTrees, tunaddrLines, List.flatten_append]
  refine Writes.append ?_ (writes_elementLines 4 (isTag_tunaddrElements tad)
    (fun element member => fresh.2 _ (tag_mem_addrTags tad element member))
    fun element member => (isPrinted_tunaddrElements tad element member).isWord)
  split
  · have name : IsName (ascii "ipv6") := ⟨by decide, List.all_eq_true.mp (by decide)⟩
    have line : blanks 4 ++ ascii "<ipv6/>\n" =
        blanks 4 ++ (single (ascii "ipv6") [] ++ [10]) := by decide
    rw [List.flatten_singleton, line]
    exact .empty (white_blanks 4) ⟨name, List.forall_mem_nil _, List.forall_mem_nil _⟩ fresh.1
      (.white white_newline)
  · exact .white (List.forall_mem_nil _)

/-- The names of the elements around what a tunnel prints. -/
def tunOuter : List (List UInt8) :=
  [ascii "tun", ascii "dev", ascii "ldtlist"]

theorem writes_mpdccptunLines (tdat : Mpdccptun) (pdevdown : Bool) :
    Writes tunOuter (mpdccptunTrees tdat pdevdown) (mpdccptunLines tdat pdevdown).flatten := by
  have tags : IsTag (ascii "type") ∧ IsTag (ascii "status") ∧ IsTag (ascii "subflowlist") := by
    decide
  have fresh : ascii "type" ∉ tunOuter ∧ ascii "status" ∉ tunOuter ∧
      ascii "subflowlist" ∉ tunOuter := by decide
  have marks : ascii "<subflowlist>\n" = [60] ++ ascii "subflowlist" ++ [62, 10] ∧
      ascii "</subflowlist>\n" = [60, 47] ++ ascii "subflowlist" ++ [62, 10] := by decide
  have typeLine : Writes tunOuter [elementTree ⟨ascii "type", typeText tdat⟩]
      (elementLine 4 ⟨ascii "type", typeText tdat⟩) :=
    writes_elementLine 4 tags.1 fresh.1 (isPrinted_typeText tdat).isWord
  have statusLine : Writes tunOuter
      [elementTree ⟨ascii "status", statusText tdat.numSubflow pdevdown⟩]
      (elementLine 4 ⟨ascii "status", statusText tdat.numSubflow pdevdown⟩) :=
    writes_elementLine 4 tags.2.1 fresh.2.1 (isPrinted_statusText _ _).isWord
  have subflowlist := writes_block 4 4 tags.2.2 fresh.2.2 (.white (List.forall_mem_nil _))
  have addresses := writes_tunaddrLines tdat.addr
    (show ∀ tag ∈ ascii "ipv6" :: addrTags, tag ∉ tunOuter by decide)
  have lines := typeLine.append (addresses.append (statusLine.append subflowlist))
  simpa [mpdccptunTrees, mpdccptunLines, marks] using lines

theorem writes_tunLines (tun : LdtTun) :
    Writes tunOuter (tunTrees tun) (tunLines tun).flatten := by
  cases running : runs tun with
  | false =>
      rw [tunTrees_of_stopped running, tunLines_of_stopped running]
      exact .white (List.forall_mem_nil _)
  | true =>
      obtain ⟨state, tundata⟩ := exists_tundata running
      rw [tunTrees_of_runs running tundata, tunLines_of_runs running tundata]
      exact writes_mpdccptunLines state.tdat tun.pdevdown

/-- The names of the elements around what is printed of a device. -/
def devOuter : List (List UInt8) :=
  [ascii "dev", ascii "ldtlist"]

/-- The two times are on one line. -/
theorem writes_times (numbers : DevNumbers) :
    Writes devOuter
      [elementTree ⟨ascii "ctime", decimal numbers.ctime⟩,
        elementTree ⟨ascii "mtime", decimal numbers.mtime⟩]
      (blanks 2 ++ ascii "<ctime>" ++ decimal numbers.ctime ++ ascii "</ctime>" ++
        ascii "<mtime>" ++ decimal numbers.mtime ++ ascii "</mtime>\n") := by
  have tags : IsTag (ascii "ctime") ∧ IsTag (ascii "mtime") := by decide
  have fresh : ascii "ctime" ∉ devOuter ∧ ascii "mtime" ∉ devOuter := by decide
  have marks : ascii "<ctime>" = [60] ++ ascii "ctime" ++ [62] ∧
      ascii "</ctime>" = [60, 47] ++ ascii "ctime" ++ [62] ∧
        ascii "<mtime>" = [60] ++ ascii "mtime" ++ [62] ∧
          ascii "</mtime>\n" = [60, 47] ++ ascii "mtime" ++ [62] ++ [10] := by decide
  have ctime : Writes devOuter [elementTree ⟨ascii "ctime", decimal numbers.ctime⟩] _ :=
    writes_element (white_blanks 2) (List.forall_mem_nil _) tags.1 fresh.1
      (isPrinted_decimal _).isWord
  have mtime : Writes devOuter [elementTree ⟨ascii "mtime", decimal numbers.mtime⟩] _ :=
    writes_element (List.forall_mem_nil _) white_newline tags.2 fresh.2 (isPrinted_decimal _).isWord
  have line := ctime.append mtime
  simpa only [marks, List.append_assoc, List.cons_append, List.nil_append] using line

/-- What is printed between the two tags of a device. -/
theorem writes_devBody (numbers : DevNumbers) (tun : LdtTun) :
    Writes devOuter
      [elementTree ⟨ascii "mtu", decimal numbers.mtu⟩,
        elementTree ⟨ascii "ctime", decimal numbers.ctime⟩,
        elementTree ⟨ascii "mtime", decimal numbers.mtime⟩,
        .tag (ascii "tun") [] (tunTrees tun)]
      (devBody numbers tun) := by
  have tags : IsTag (ascii "mtu") ∧ IsTag (ascii "tun") := by decide
  have fresh : ascii "mtu" ∉ devOuter ∧ ascii "tun" ∉ devOuter := by decide
  have marks : ascii "<tun>\n" = [60] ++ ascii "tun" ++ [62, 10] ∧
      ascii "</tun>\n" = [60, 47] ++ ascii "tun" ++ [62, 10] := by decide
  have mtu : Writes devOuter [elementTree ⟨ascii "mtu", decimal numbers.mtu⟩]
      (elementLine 2 ⟨ascii "mtu", decimal numbers.mtu⟩) :=
    writes_elementLine 2 tags.1 fresh.1 (isPrinted_decimal _).isWord
  have block := writes_block 2 2 tags.2 fresh.2 (writes_tunLines tun)
  have lines := mtu.append ((writes_times numbers).append block)
  simpa only [devBody, marks, List.append_assoc, List.cons_append, List.nil_append] using lines

/-- The description is one element, with its lines between the tags. -/
theorem devText_node (name : List UInt8) (numbers : DevNumbers) (tun : LdtTun) :
    devText name numbers tun = opening (ascii "dev") [(ascii "name", cstring name)] ++
      ([10] ++ devBody numbers tun ++ (closing (ascii "dev") ++ [10])) := by
  have marks : ascii "<dev name=\"" = [60] ++ ascii "dev" ++ [32] ++ ascii "name" ++ [61, 34] ∧
      ascii "\">\n" = [34, 62] ++ [10] ∧
        ascii "</dev>\n" = [60, 47] ++ ascii "dev" ++ [62] ++ [10] := by decide
  simp [devText_eq, marks, opening, closing, tagHead, attrsText]

/-- The description of a device is a way to write its tree. -/
theorem writes_devText {name : List UInt8} (plain : Plain name) (numbers : DevNumbers)
    (tun : LdtTun) :
    Writes [ascii "ldtlist"] [devTree name numbers tun] (devText name numbers tun) := by
  have tags : IsTag (ascii "dev") ∧ IsTag (ascii "name") := by decide
  have fresh : ascii "dev" ∉ [ascii "ldtlist"] := by decide
  have head : IsHead (ascii "dev") [(ascii "name", cstring name)] := by
    refine ⟨.of_isTag tags.1, ?_, ?_⟩
    · intro attr member
      rw [List.mem_singleton.mp member]
      exact .of_isTag tags.2
    · intro attr member
      rw [List.mem_singleton.mp member]
      intro byte inside
      exact plain byte ((List.takeWhile_prefix _).subset inside)
  have body := (writes_devBody numbers tun).white_append white_newline
  have dev : Writes [ascii "ldtlist"] [devTree name numbers tun] _ :=
    .node (List.forall_mem_nil _) head fresh body (.white white_newline)
  simpa only [devText_node, List.nil_append] using dev

end Tunprox.DevInfo
