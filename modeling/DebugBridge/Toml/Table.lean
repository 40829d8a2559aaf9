import DebugBridge.Toml.Value

/-!
# Building tables

A table grows entry by entry, and each key is set once. A key with dots, `a.b.c`, sets `c` in a
table `a.b`, which it makes if need be, and which only other keys with dots may add to. A header
`[a.b]` opens a table that no header has opened before, and makes the tables on the way if need be;
a header `[[a.b]]` adds a row to a list of tables. On the way of a header a list of tables stands
for its last row.
-/

namespace DebugBridge.Toml

/-- How a table came to be. -/
inductive Origin
  /-- By a header of its own. -/
  | header
  /-- On the way of another header. -/
  | wayside
  /-- By a key with dots. -/
  | dotted
  deriving Repr, DecidableEq, Inhabited

/-- What stands under a key while the document is read. -/
inductive Node
  | value (v : Toml)
  | table (origin : Origin) (entries : List (String × Node))
  /-- Tables of the same header, the latest first. -/
  | rows (tables : List (List (String × Node)))
  deriving Inhabited

/-- The entries of a table while the document is read. -/
abbrev Entries := List (String × Node)

namespace Entries

/-- What stands under a key. -/
def find (es : Entries) (k : String) : Option Node := (es.find? (·.1 == k)).map (·.2)

/-- Puts something under a key, in the place of what stands there or else last. -/
def put (es : Entries) (k : String) (n : Node) : Entries :=
  match es with
  | [] => [(k, n)]
  | e :: rest => if e.1 = k then (k, n) :: rest else e :: put rest k n

/-- Changes the table at the end of a path, making the tables on the way that are missing. The path
is a header's, or of a key with dots; such a key goes through no table that has a header. -/
def update (isDotted : Bool) (f : Origin → Entries → Option Entries) (origin : Origin) :
    List String → Entries → Option Entries
  | [], es => f origin es
  | k :: path, es =>
    match es.find k with
    | none =>
      let origin := if isDotted then .dotted else .wayside
      (update isDotted f origin path []).map fun sub => es.put k (.table origin sub)
    | some (.value _) => none
    | some (.table origin sub) =>
      if isDotted && origin == .header then none
      else (update isDotted f origin path sub).map fun sub => es.put k (.table origin sub)
    | some (.rows []) => none
    | some (.rows (last :: earlier)) =>
      (update isDotted f .header path last).map fun last => es.put k (.rows (last :: earlier))

/-- Sets a key, which must be new. -/
def setNew (k : String) (v : Toml) (es : Entries) : Option Entries :=
  match es.find k with
  | none => some (es ++ [(k, .value v)])
  | some _ => none

/-- Sets a key with the dotted path before it. -/
def set (es : Entries) (path : List String) (k : String) (v : Toml) : Option Entries :=
  match path with
  | [] => es.setNew k v
  | _ => es.update true (fun origin sub => if origin = .dotted then setNew k v sub else none)
      .header path

/-- Sets some keys in order. -/
def setAll (es : Entries) : List (List String × String × Toml) → Option Entries
  | [] => some es
  | (path, k, v) :: rest => (es.set path k v).bind fun es => setAll es rest

/-- Fills the table of a header with its keys. -/
def openTable (es : Entries) (path : List String) (k : String)
    (keys : List (List String × String × Toml)) : Option Entries :=
  es.update false (fun _ parent =>
    match parent.find k with
    | none => (setAll [] keys).map fun sub => parent.put k (.table .header sub)
    | some (.table .wayside sub) =>
      (setAll sub keys).map fun sub => parent.put k (.table .header sub)
    | some _ => none) .header path

/-- Adds a row with its keys to the list of tables of a header. -/
def addRow (es : Entries) (path : List String) (k : String)
    (keys : List (List String × String × Toml)) : Option Entries :=
  es.update false (fun _ parent =>
    match parent.find k with
    | none => (setAll [] keys).map fun row => parent.put k (.rows [row])
    | some (.rows tables) =>
      (setAll [] keys).map fun row => parent.put k (.rows (row :: tables))
    | some _ => none) .header path

end Entries

mutual

/-- The value that has been built. -/
def Node.built : Node → Toml
  | .value v => v
  | .table _ es => .table (builtEntries es)
  | .rows tables => .array (builtRows tables).reverse

/-- The values of some entries. -/
def builtEntries : List (String × Node) → List (String × Toml)
  | [] => []
  | (k, n) :: rest => (k, n.built) :: builtEntries rest

/-- The tables of some rows. -/
def builtRows : List (List (String × Node)) → List Toml
  | [] => []
  | es :: rest => .table (builtEntries es) :: builtRows rest

end

end DebugBridge.Toml
