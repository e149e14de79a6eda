import Ingest.Value.Record

/-!
# Toml/Document — the tables of a TOML document

A document is a tree of tables. A table may be made by a header of its own, or on the way to another
one; the second kind can still get a header, and the tables that dotted keys make can only grow
through dotted keys. No table and no key is defined twice.
-/

namespace Ingest.Toml

/-- A part of a document. -/
inductive Item where
  | value (v : Value)
  /-- A table. It is `implicit` if no header names it, and `dotted` if a dotted key made it. -/
  | table (implicit dotted : Bool) (members : List (String × Item))
  /-- An array of tables, each with a header of its own. -/
  | tables (elements : List Item)

/-- The members of a table. -/
abbrev Members := List (String × Item)

/-- A table that nothing defines yet. -/
def Item.empty : Item := .table false false []

/-! ## As data -/

mutual

/-- The data a part of a document stands for. -/
def Item.toValue : Item → Value
  | .value v => v
  | .table _ _ members => .ofMembers (membersToValues members)
  | .tables elements => .array (itemsToValues elements)

/-- The data some parts stand for. -/
def itemsToValues : List Item → List Value
  | [] => []
  | i :: rest => i.toValue :: itemsToValues rest

/-- The data named parts stand for. -/
def membersToValues : Members → List (String × Value)
  | [] => []
  | (name, i) :: rest => (name, i.toValue) :: membersToValues rest

end

/-- Records in TOML: a list may go on after the last field, and an empty table or an empty list
stands under the name of a case. -/
def recordForm : RecordForm where
  longLists := true
  isNothing
    | .object [] | .array [] => true
    | _ => false

/-! ## Growing -/

/-- The members with one of them replaced, or added at the end. -/
def setMember (name : String) (i : Item) : Members → Members
  | [] => [(name, i)]
  | e :: rest => if e.1 = name then (name, i) :: rest else e :: setMember name i rest

/-- Changes the table at the end of a path. Tables that are missing on the way are made, an array of
tables stands for its last element, and anything else is in the way. A dotted path (`byDots`) enters
no table that has a header. -/
def Item.modify (byDots : Bool) (f : Item → Option Item) : List String → Item → Option Item
  | [], i => f i
  | key :: path, .table implicit dotted members =>
    match members.lookup key with
    | none => do
      let made ← Item.modify byDots f path (.table true byDots [])
      return .table implicit dotted (setMember key made members)
    | some (.table i d ms) =>
      if byDots && !i then none
      else do
        let changed ← Item.modify byDots f path (.table i d ms)
        return .table implicit dotted (setMember key changed members)
    | some (.tables elements) => do
      let last ← elements.getLast?
      let changed ← Item.modify byDots f path last
      return .table implicit dotted (setMember key (.tables (elements.dropLast ++ [changed])) members)
    | some (.value _) => none
  | _ :: _, _ => none

/-- Adds a value under a new key. A key that is reached by dots needs a table that dots made. -/
def Item.define (byDots : Bool) (key : String) (v : Value) : Item → Option Item
  | .table implicit dotted members =>
    if dotted = byDots ∧ (members.lookup key).isNone then
      some (.table implicit dotted (members ++ [(key, .value v)]))
    else none
  | _ => none

/-- Adds a value under a key; the keys before the last one are the dotted path to its table. -/
def Item.assign (path : List String) (key : String) (v : Value) (i : Item) : Option Item :=
  i.modify true (Item.define (!path.isEmpty) key v) path

/-- Opens the table of a header. -/
def Item.openTable (key : String) : Item → Option Item
  | .table implicit dotted members =>
    match members.lookup key with
    | none => some (.table implicit dotted (setMember key .empty members))
    | some (.table true false ms) =>
      some (.table implicit dotted (setMember key (.table false false ms) members))
    | some _ => none
  | _ => none

/-- Opens a new element of the array of tables of a header. -/
def Item.openElement (key : String) : Item → Option Item
  | .table implicit dotted members =>
    match members.lookup key with
    | none => some (.table implicit dotted (setMember key (.tables [.empty]) members))
    | some (.tables elements) =>
      some (.table implicit dotted (setMember key (.tables (elements ++ [.empty])) members))
    | some _ => none
  | _ => none

/-! ## Lines -/

/-- What a line of a document says. -/
inductive Line where
  | blank
  /-- A header of a table. -/
  | table (path : List String) (key : String)
  /-- A header of an element of an array of tables. -/
  | element (path : List String) (key : String)
  /-- A key with its value. -/
  | assignment (path : List String) (key : String) (v : Value)

/-- A document and the table that its last header opened. -/
structure Document where
  /-- The tables. -/
  root : Item := .empty
  /-- The path to the open table. -/
  current : List String := []

/-- The document after one more line. -/
def Document.extend (d : Document) : Line → Option Document
  | .blank => some d
  | .table path key => do
    return ⟨← d.root.modify false (Item.openTable key) path, path ++ [key]⟩
  | .element path key => do
    return ⟨← d.root.modify false (Item.openElement key) path, path ++ [key]⟩
  | .assignment path key v => do
    return { d with root := ← d.root.modify false (Item.assign path key v) d.current }

/-- The data of a document. -/
def Document.toValue (d : Document) : Value := d.root.toValue

end Ingest.Toml
