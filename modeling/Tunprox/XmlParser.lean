import Tunprox.ElementText
import Tunprox.Netlink

/-!
# The XML parser of frlib

`xml_parse` writes zeros into the text and keeps pointers to what is between them.  Here the
functions take the string at their pointer and return strings: what a function cuts off, and
what follows behind the zero that it writes.  A step that reads behind the end of its string,
or a variable that was never set, is `wild`.
-/

namespace Tunprox.XmlParser

open ElementText (after strip)
open Netlink (RERR_NOT_FOUND)

def RERR_INVALID_FORMAT : Int := -35

/-- Why there is no result: an error is returned, the behaviour is not defined, or the number
of rounds that the model allows is not enough. -/
inductive Fault where
  | ret (ret : Int)
  | wild
  | loops
  deriving DecidableEq, Repr

abbrev Parse (α : Type) := Except Fault α

/-- `struct xml_attr`, whose value may be a null pointer. -/
abbrev Attr := List UInt8 × Option (List UInt8)

/-- `SUB_TYPE_TAG` and the types behind it. -/
inductive SubType where
  | tag
  | questionTag
  | exclamTag
  | comment
  | text
  | emptyText
  deriving DecidableEq, Repr

/-- `SUB_TYPE_ISTAG` -/
def SubType.isTag (type : SubType) : Bool :=
  type == .tag || type == .exclamTag

/-- `struct xml_sub`.  An entry that `xmltag_hfree` has cleared is `null`: its name or text is a
null pointer, and there is nothing in it. -/
inductive XmlSub where
  | tag (name : List UInt8) (attrs : List Attr) (subs : List XmlSub)
  | questionTag (text : List UInt8)
  | exclamTag (name : List UInt8) (attrs : List Attr)
  | comment (text : List UInt8)
  | text (text : List UInt8)
  | emptyText (text : List UInt8)
  | null (type : SubType)

def XmlSub.type : XmlSub → SubType
  | .tag _ _ _ => .tag
  | .questionTag _ => .questionTag
  | .exclamTag _ _ => .exclamTag
  | .comment _ => .comment
  | .text _ => .text
  | .emptyText _ => .emptyText
  | .null type => type

def isalnum (byte : UInt8) : Bool :=
  isdigit byte || (65 ≤ byte && byte ≤ 90) || (97 ≤ byte && byte ≤ 122)

/-- `is_name_char` -/
def isNameChar (byte : UInt8) : Bool :=
  isalnum byte || byte == 95

section Scan

/-- Where a tag ends: what stands before the `>`, and what follows it, unless the string ends
before. -/
structure TagEnd where
  head : List UInt8
  rest : Option (List UInt8)

/-- `find_end_of_tag`; a string that ends inside of quotation marks is an error. -/
def findEndOfTag : Bool → List UInt8 → Option TagEnd
  | false, [] => some { head := [], rest := none }
  | true, [] => none
  | quoted, byte :: bytes =>
      if byte = 62 ∧ quoted = false then some { head := [], rest := some bytes }
      else
        (findEndOfTag (quoted != (byte == 34)) bytes).map fun tagEnd =>
          { tagEnd with head := byte :: tagEnd.head }

/-- `find_end_of_comment`: the comment with the `-->`, and what follows it. -/
def findEndOfComment : List UInt8 → Option (List UInt8 × List UInt8)
  | [] => none
  | byte :: bytes =>
      if [45, 45, 62].isPrefixOf (byte :: bytes) then some ([45, 45, 62], bytes.drop 2)
      else (findEndOfComment bytes).map fun (comment, rest) => (byte :: comment, rest)

def skipAngle (ptr : List UInt8) : List UInt8 :=
  if ptr.head? = some 60 then ptr.drop 1 else ptr

/-- What `is_question_tag`, `is_comment`, `is_exclam_tag` and `parse_body` skip. -/
def skipOpen (ptr : List UInt8) : List UInt8 :=
  (skipAngle ptr).dropWhile isspace

def isQuestionTag (ptr : List UInt8) : Bool :=
  (skipOpen ptr).head? == some 63

def isComment (ptr : List UInt8) : Bool :=
  [33, 45, 45].isPrefixOf (skipOpen ptr)

def isExclamTag (ptr : List UInt8) : Bool :=
  (skipOpen ptr).head? == some 33 && !isComment ptr

/-- `cmp_tag_name`: if the names are the same, whether it is a tag that closes. -/
def cmpTagName (ptr name : List UInt8) : Option Bool :=
  let ptr := skipAngle ptr
  let isendtag := ptr.head? == some 47
  let ptr := (if isendtag then ptr.drop 1 else ptr).dropWhile isspace
  if strcaseeq (ptr.take name.length) name && !(ptr.drop name.length).head?.any isNameChar then
    some isendtag
  else none

/-- `num_nested` behind the tag at `ptr`. -/
def nest (name ptr : List UInt8) (numNested : Nat) : Nat :=
  if isQuestionTag ptr then numNested
  else
    match cmpTagName ptr name with
    | none => numNested
    | some true => numNested - 1
    | some false => numNested + 1

/-- A comment at the pointer, and what follows it; no comment is an empty one. -/
def skipComment (ptr : List UInt8) : Option (List UInt8 × List UInt8) :=
  if isComment ptr then findEndOfComment ptr else some ([], ptr)

/-- What follows a tag that `find_end_of_tag` skips; it is at the end if it fails. -/
def behindTag (ptr : List UInt8) : List UInt8 :=
  ((findEndOfTag false ptr).bind TagEnd.rest).getD []

/-- `find_end_tag` with `null_body`: the body that it cuts off, and where its pointer is at
the end.  `parse_node` does not look at what it returns. -/
def findEndTag (name : List UInt8) : Nat → Nat → List UInt8 → List UInt8 × List UInt8
  | 0, _, ptr => (ptr, [])
  | fuel + 1, numNested, ptr =>
      let before := ptr.takeWhile (· ≠ 60)
      match skipComment (ptr.dropWhile (· ≠ 60)) with
      | none => (ptr, [])
      | some (comment, here) =>
          if here = [] then (ptr, [])
          else
            let numNested := nest name here numNested
            if numNested = 0 then (before ++ comment, behindTag (here.drop 1))
            else
              match findEndOfTag false here with
              | some { head := head, rest := some rest } =>
                  let found := findEndTag name fuel numNested rest
                  (before ++ (comment ++ (head ++ 62 :: found.1)), found.2)
              | _ => (ptr, [])

/-- The tag and what follows it are all of the string. -/
theorem eq_of_findEndOfTag {quoted : Bool} {bytes head rest : List UInt8}
    (found : findEndOfTag quoted bytes = some { head := head, rest := some rest }) :
    bytes = head ++ 62 :: rest := by
  induction bytes generalizing quoted head with
  | nil => cases quoted <;> cases found
  | cons byte bytes ih =>
      rw [findEndOfTag] at found
      split at found
      · rename_i greater
        cases found
        rw [greater.1, List.nil_append]
      · obtain ⟨tagEnd, inner, same⟩ := Option.map_eq_some_iff.mp found
        obtain ⟨innerHead, innerRest⟩ := tagEnd
        simp only [TagEnd.mk.injEq] at same
        obtain ⟨rfl, rfl⟩ := same
        rw [ih inner, List.cons_append]

theorem eq_of_findEndOfComment {bytes comment rest : List UInt8}
    (found : findEndOfComment bytes = some (comment, rest)) : bytes = comment ++ rest := by
  induction bytes generalizing comment with
  | nil => cases found
  | cons byte bytes ih =>
      rw [findEndOfComment] at found
      split at found
      · rename_i isEnd
        obtain ⟨more, eq⟩ := List.isPrefixOf_iff_prefix.mp isEnd
        cases found
        rw [← eq]
        cases eq
        rfl
      · obtain ⟨⟨innerComment, innerRest⟩, inner, same⟩ := Option.map_eq_some_iff.mp found
        cases same
        rw [ih inner, List.cons_append]

theorem eq_of_skipComment {bytes comment here : List UInt8}
    (found : skipComment bytes = some (comment, here)) : bytes = comment ++ here := by
  rw [skipComment] at found
  split at found
  · exact eq_of_findEndOfComment found
  · cases found
    rfl

end Scan

section Tag

/-- The loop of `parse_attr`.  It ends behind a value without quotation marks, where it writes
its zero; a name at the end of the string is not cut off. -/
def parseAttr : Nat → List UInt8 → Parse (List Attr)
  | 0, _ => .error .loops
  | fuel + 1, ptr =>
      match ptr.dropWhile isspace with
      | [] => .ok []
      | first :: rest =>
          if first = 62 ∨ first = 47 ∧ (rest = [] ∨ rest.head? = some 62) then .ok []
          else if isNameChar first = false then .error (.ret RERR_INVALID_FORMAT)
          else
            let var := (first :: rest).takeWhile isNameChar
            match (first :: rest).dropWhile isNameChar with
            | [] => .ok [(var, none)]
            | mark :: behind =>
                if mark = 62 then .ok [(first :: rest, none)]
                else
                  let behind := behind.dropWhile isspace
                  let hasEq := mark == 61 || behind.head? == some 61
                  let val := behind.dropWhile fun byte => isspace byte || byte == 61
                  if hasEq = false then
                    (parseAttr fuel val).map ((var, none) :: ·)
                  else if val.head? = some 34 ∨ mark = 34 then
                    match val with
                    | [] => .error .wild
                    | _ :: val =>
                        (parseAttr fuel (after 34 val)).map
                          ((var, some (val.takeWhile (· ≠ 34))) :: ·)
                  else if val.head?.any isNameChar then
                    .ok [(var, some (val.takeWhile isNameChar))]
                  else .error (.ret RERR_INVALID_FORMAT)

/-- `parse_tag` -/
def parseTag (ptr : List UInt8) : Parse (List UInt8 × List Attr) :=
  let name := ptr.takeWhile isNameChar
  match ptr.dropWhile isNameChar with
  | [] => .ok (name, [])
  | mark :: rest =>
      if mark = 62 ∨ mark = 47 then .ok (name, [])
      else (parseAttr (rest.length + 1) rest).map (name, ·)

/-- `parse_node` with `parse_body` for what is in the tag. -/
def parseNode (parseBody : List UInt8 → Parse (List XmlSub)) (ptr : List UInt8) :
    Parse (XmlSub × List UInt8) :=
  match findEndOfTag false ptr with
  | none => .error (.ret RERR_NOT_FOUND)
  | some { head := _, rest := none } => .error .wild
  | some { head := head, rest := some rest } => do
      let isendtag := head.getLast? == some 47
      let (name, attrs) ← parseTag (if isendtag then head.dropLast else head)
      if isendtag then .ok (.tag name attrs [], rest)
      else do
        let (body, rest) := findEndTag name (rest.length + 1) 1 rest
        let subs ← parseBody body
        .ok (.tag name attrs subs, rest)

end Tag

section Body

/-- `is_empty_str` decides on the type of a text. -/
def textSub (str : List UInt8) : XmlSub :=
  if str.all isspace then .emptyText str else .text str

/-- The start of `parse_body`, and the end of a round of its loop. -/
def enterBody (loop : Bool → List UInt8 → Parse (List XmlSub)) (ptr : List UInt8) :
    Parse (List XmlSub) :=
  if ptr = [] then .ok [] else loop (ptr.head? == some 60) ptr

/-- The loop of `parse_body` with the variable `istag`.  Behind a tag with `!` it parses what
follows as if it were in the tag, and so cuts it off behind a name. -/
def bodyLoop : Nat → Bool → List UInt8 → Parse (List XmlSub)
  | 0, _, _ => .error .loops
  | fuel + 1, false, ptr =>
      let str := ptr.takeWhile (· ≠ 60)
      match ptr.dropWhile (· ≠ 60) with
      | [] => .ok [textSub str]
      | _ :: rest => (bodyLoop fuel true rest).map (textSub str :: ·)
  | fuel + 1, true, ptr =>
      let ptr := skipOpen ptr
      if isQuestionTag ptr then
        match findEndOfTag false ptr with
        | none => .ok [.questionTag ptr]
        | some { head := head, rest := none } => .ok [.questionTag head.dropLast]
        | some { head := head, rest := some rest } =>
            (enterBody (bodyLoop fuel) rest).map (.questionTag head :: ·)
      else if isComment ptr then
        match findEndOfComment ptr with
        | none => .ok [.comment (ptr.drop 3)]
        | some (comment, rest) =>
            (enterBody (bodyLoop fuel) rest).map
              (.comment ((comment.drop 3).take (comment.length - 6)) :: ·)
      else if isExclamTag ptr then do
        let (name, attrs) ← parseTag (behindTag (ptr.drop 1))
        (enterBody (bodyLoop fuel) name).map (.exclamTag name attrs :: ·)
      else do
        let (tag, rest) ← parseNode (enterBody (bodyLoop fuel)) ptr
        (enterBody (bodyLoop fuel) rest).map (tag :: ·)

/-- `parse_body` -/
def parseBody (ptr : List UInt8) : Parse (List XmlSub) :=
  enterBody (bodyLoop (ptr.length + 1)) ptr

end Body

end Tunprox.XmlParser
