import HostAgent.Datum

/-!
# The tree of a TOML document

Tables come into being in three ways: by their header, by a dotted key, or because something
below them is written.  Which of these a table came by decides who may add to it later.

* `Node` — a value, a table, or a list of tables that grows by headers.
* `Node.within` — changes the table at a path; tables that are missing on the way are made.
* `Node.insert` — adds a key and its value.
* `Node.openTable`, `Node.openItem` — what a header does.
-/

namespace HostAgent.Toml

/-- A place in a document.  A table is `implied` until it is written itself, and `dotted` if a
dotted key made it.  Of a list of tables the last comes first. -/
inductive Node where
  | value (d : Datum)
  | table (implied dotted : Bool) (members : List (String × Node))
  | tables (items : List Node)
  deriving Inhabited

namespace Node

/-- An empty table that is written itself. -/
def empty : Node := .table false false []

/-- The members with one replaced. -/
def replace (key : String) (n : Node) (ms : List (String × Node)) : List (String × Node) :=
  ms.map fun m => if m.1 = key then (key, n) else m

/-- Changes the table at a path.  The way leads into the last item of a list of tables.  On the
way of a dotted key only tables that are not written themselves may be met. -/
def within (dotted : Bool) (f : Node → Option Node) : List String → Node → Option Node
  | [], n => f n
  | key :: path, .table implied d ms =>
    match ms.lookup key with
    | none => do
      let n ← within dotted f path (.table true dotted [])
      some (.table implied d (ms ++ [(key, n)]))
    | some (.table i d' ms') => do
      if dotted && !i then none
      let n ← within dotted f path (.table i d' ms')
      some (.table implied d (replace key n ms))
    | some (.tables (last :: items)) => do
      let n ← within dotted f path last
      some (.table implied d (replace key (.tables (n :: items)) ms))
    | some _ => none
  | _ :: _, _ => none

/-- Adds a member to a table, which has to come by dotted keys if and only if the key does. -/
def addMember (key : String) (d : Datum) (dottedKey : Bool) : Node → Option Node
  | .table implied dotted ms =>
    if dotted != dottedKey || (ms.lookup key).isSome then none
    else some (.table implied dotted (ms ++ [(key, .value d)]))
  | _ => none

/-- Adds a value under a key of one or more parts. -/
def insert (path : List String) (key : String) (d : Datum) (n : Node) : Option Node :=
  within true (addMember key d !path.isEmpty) path n

/-- A header makes a table, or takes over one that was only implied and not by a dotted key. -/
def openMember (key : String) : Node → Option Node
  | .table implied dotted ms =>
    match ms.lookup key with
    | none => some (.table implied dotted (ms ++ [(key, empty)]))
    | some (.table true false ms') =>
      some (.table implied dotted (replace key (.table false false ms') ms))
    | some _ => none
  | _ => none

/-- What the header of a table does. -/
def openTable (path : List String) (key : String) (n : Node) : Option Node :=
  within false (openMember key) path n

/-- A header makes the next item of a list of tables, or the list with its first item. -/
def pushMember (key : String) : Node → Option Node
  | .table implied dotted ms =>
    match ms.lookup key with
    | none => some (.table implied dotted (ms ++ [(key, .tables [empty])]))
    | some (.tables items) =>
      some (.table implied dotted (replace key (.tables (empty :: items)) ms))
    | some _ => none
  | _ => none

/-- What the header of an item does. -/
def openItem (path : List String) (key : String) (n : Node) : Option Node :=
  within false (pushMember key) path n

mutual

/-- The value of a node. -/
def datum : Node → Datum
  | .value d => d
  | .table _ _ ms => .record (membersData ms)
  | .tables items => .list (itemsData items).reverse

/-- The values of all members. -/
def membersData : List (String × Node) → List (String × Datum)
  | [] => []
  | (key, n) :: ms => (key, datum n) :: membersData ms

/-- The values of all items. -/
def itemsData : List Node → List Datum
  | [] => []
  | n :: ns => datum n :: itemsData ns

end

end Node

end HostAgent.Toml
