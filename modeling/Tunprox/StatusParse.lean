import Tunprox.EventMessage
import Tunprox.WrittenTree

/-!
# The status in the tool

`ldt_get_status` gets the descriptions of all devices, has them parsed, walks with a cursor
from device to device, and takes the words of the element `status` apart.  The parser is a
parameter; the functions that search in its trees are modelled for queries that are names.
The memory of the tool is never short.
-/

namespace Tunprox.StatusParse

open ByteBuffer ElementText WrittenTree NetlinkReply
open Netlink (RERR_INTERNAL)

/-- `xmltag_getattr` -/
def xmltagGetattr (attrs : List (List UInt8 × List UInt8)) (attr : List UInt8) :
    Option (List UInt8) :=
  (attrs.find? fun have_ => strcaseeq have_.1 attr).map Prod.snd

/-- `search_tag` without a query: the first text. -/
def tagText (subs : List Tree) : List UInt8 :=
  (subs.findSome? fun
    | .text bytes => some bytes
    | .tag _ _ _ => none).getD []

/-- The first loop of `search_sublist`: what is below the first tag with the name. -/
def findChild (query : List UInt8) (subs : List Tree) : Option (List Tree) :=
  subs.findSome? fun
    | .text _ => none
    | .tag name _ subs => if strcaseeq name query then some subs else none

mutual

/-- `search_tag` -/
def searchTag (query : List UInt8) : Tree → Option (List UInt8)
  | .text _ => none
  | .tag _ attrs subs =>
      match xmltagGetattr attrs query with
      | some val => some val
      | none =>
          match findChild query subs with
          | some found => some (tagText found)
          | none => searchSubs query subs

/-- The second loop of `search_sublist`. -/
def searchSubs (query : List UInt8) : List Tree → Option (List UInt8)
  | [] => none
  | tree :: trees =>
      match searchTag query tree with
      | some found => some found
      | none => searchSubs query trees

end

/-- A cursor: the tag it stands on, and the siblings behind. -/
abbrev Cursor := List Tree

/-- The first loop of `tagsearch_sublist`. -/
def findTag (query : List UInt8) : List Tree → Option Cursor
  | [] => none
  | .text _ :: rest => findTag query rest
  | .tag name attrs subs :: rest =>
      if strcaseeq name query then some (.tag name attrs subs :: rest) else findTag query rest

/-- The second loop of `tagsearch_sublist`, with `tag_search` for each tag. -/
def tagSearchSubs (query : List UInt8) : List Tree → Option Cursor
  | [] => none
  | .text _ :: rest => tagSearchSubs query rest
  | .tag name attrs subs :: rest =>
      if (xmltagGetattr attrs query).isSome then some (.tag name attrs subs :: rest)
      else
        match findTag query subs with
        | some found => some found
        | none =>
            match tagSearchSubs query subs with
            | some found => some found
            | none => tagSearchSubs query rest

/-- `xmlcurs_searchtag` from the top of a document. -/
def xmlcursSearchtag (query : List UInt8) (xml : List Tree) : Option Cursor :=
  match findTag query xml with
  | some found => some found
  | none => tagSearchSubs query xml

/-- `struct ldt_status_t`, whose flags are single bits. -/
structure LdtStatus where
  iface : List UInt8
  linkup : Bool
  pdevup : Bool
  tunup : Bool
  ifup : Bool
  deriving DecidableEq, Repr

/-- The fields that `top_getfield` returns one after the other for the separators `,` and `|`:
without white space at their ends and without a comment, as far as anything is left. -/
def topFields (string : List UInt8) : List (List UInt8) :=
  ((string.splitOnP fun byte => byte == 44 || byte == 124).map fun field =>
    (strip field).takeWhile (· ≠ 35)).filter (· ≠ [])

/-- The `sswitch` of `parsestat`. -/
def parseField (stat : LdtStatus) (s : List UInt8) : LdtStatus :=
  if strcaseeq (ascii "up") s || strcaseeq (ascii "linkup") s then { stat with linkup := true }
  else if strcaseeq (ascii "pdevup") s then { stat with pdevup := true }
  else if strcaseeq (ascii "tundown") s then { stat with tunup := false }
  else if strcaseeq (ascii "ifdown") s then { stat with ifup := false }
  else stat

/-- `parsestat` for the device `iface`. -/
def parsestat (iface : List UInt8) (status : Option (List UInt8)) : LdtStatus :=
  match status with
  | none => { iface := iface, linkup := true, pdevup := true, tunup := true, ifup := true }
  | some status =>
      (topFields status).foldl parseField
        { iface := iface, linkup := false, pdevup := false, tunup := true, ifup := true }

/-- `strncpy` to the member `iface`. -/
def copyIface (xif : List UInt8) : List UInt8 :=
  xif.take 31

/-- The loop of `tp_parse_status` from the cursor on; `tcurs` stands on the same tag.  It gives
nothing if it copies from a null pointer. -/
def parseDevs (iface : Option (List UInt8)) : Cursor → Option (List LdtStatus)
  | [] => some []
  | .text _ :: rest => parseDevs iface rest
  | .tag name attrs subs :: rest =>
      let xif := xmltagGetattr attrs (ascii "name")
      if iface.any fun iface => xif.any fun xif => !strcaseeq iface xif then
        parseDevs iface rest
      else do
        let xif ← xif
        let status := searchTag (ascii "status") (.tag name attrs subs)
        let statlist ← parseDevs iface rest
        some (parsestat (copyIface xif) status :: statlist)

/-- `xif` behind the loop. -/
def lastName (cursor : Cursor) : Option (List UInt8) :=
  (cursor.reverse.findSome? fun
    | .text _ => none
    | .tag _ attrs _ => some (xmltagGetattr attrs (ascii "name"))).join

/-- `tp_parse_status` -/
def tpParseStatus (iface : Option (List UInt8)) (xml : List Tree) : Option (List LdtStatus) :=
  match xmlcursSearchtag (ascii "dev") xml with
  | none => some []
  | some cursor => do
      let statlist ← parseDevs iface cursor
      if statlist = [] ∧ iface.isSome then do
        let xif ← lastName cursor
        some [{
          iface := copyIface xif, linkup := false, pdevup := false, tunup := false,
          ifup := false }]
      else some statlist

/-- `ldt_get_status` on what the tool receives. -/
def ldtGetStatus (xmlParse : List UInt8 → Except Int (List Tree)) (iface : Option (List UInt8))
    (received : List (Except Int (List UInt8))) (stack : Int) :
    Option (Except Int (List LdtStatus)) := do
  let reply ← ldtNlGetanswer received stack
  if reply.ret < 0 then some (.error reply.ret)
  else
    match reply.data with
    | none => some (.error RERR_INTERNAL)
    | some info =>
        match xmlParse (cstring info) with
        | .error ret => some (.error ret)
        | .ok xml => (tpParseStatus iface xml).map .ok

end Tunprox.StatusParse
