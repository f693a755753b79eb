import HttpExchange.Assoc

/-!
# TOML values

What a TOML document says: nested tables of named values. A table remembers how
it came about, because that decides in which ways it may be added to later.

## Main definitions

- `Toml`: values.
- `Toml.update?`: changes what is found at the end of a path.
- `Toml.assign?`, `Toml.beginTable?`, `Toml.beginItem?`: the three ways in which a
  document grows.
-/

namespace HttpExchange

/-- How a table came about. -/
inductive Toml.Origin where
  /-- It was written as a value, and is complete. -/
  | closed
  /-- It has a header of its own. -/
  | header
  /-- A header of a table inside of it implies it. -/
  | implied
  /-- A dotted name implies it. -/
  | dotted
  deriving DecidableEq, Repr

/-- A TOML value. Of numbers with a fraction and of dates it only matters that they are such. -/
inductive Toml where
  | string (t : Text)
  | integer (i : Int)
  | float
  | boolean (b : Bool)
  | dateTime
  | array (items : List Toml)
  /-- An array of tables, each with a header of its own. -/
  | tables (items : List Toml)
  | table (origin : Toml.Origin) (entries : List (Text × Toml))
  deriving Inhabited

namespace Toml

/-- The document that says nothing. -/
def empty : Toml := .table .header []

/-- Whether a table of some origin may be entered: by a dotted name only when it has no header of
its own, and never when it is complete. -/
def mayEnter (byDots : Bool) : Origin → Bool
  | .closed => false
  | .header => !byDots
  | .implied | .dotted => true

/-- The table that a name on a path implies. -/
def impliedTable (byDots : Bool) : Toml := .table (if byDots then .dotted else .implied) []

/-- Changes the last of some values. -/
def updateLast? (f : Toml → Option Toml) : List Toml → Option (List Toml)
  | [] => none
  | [v] => (f v).map ([·])
  | v :: w :: rest => (updateLast? f (w :: rest)).map (v :: ·)

/-- Changes what a name on a path stands for: a table, or the last of an array of tables. -/
def updateChild? (byDots : Bool) (f : Toml → Option Toml) : Option Toml → Option Toml
  | none => f (impliedTable byDots)
  | some (.table origin entries) =>
    if mayEnter byDots origin then f (.table origin entries) else none
  | some (.tables items) => (updateLast? f items).map .tables
  | some _ => none

/-- Changes what a name in a table stands for. -/
def updateName? (byDots : Bool) (name : Text) (f : Toml → Option Toml) : Toml → Option Toml
  | .table origin entries =>
    (updateChild? byDots f (Assoc.get? name entries)).map fun v =>
      .table origin (Assoc.set name v entries)
  | _ => none

/-- Changes what is found at the end of a path. -/
def update? (byDots : Bool) (f : Toml → Option Toml) : (path : List Text) → Toml → Option Toml
  | [], v => f v
  | name :: path, v => updateName? byDots name (update? byDots f path) v

/-- Adds an entry with a new name to a table. -/
def addEntry? (name : Text) (v : Toml) : Toml → Option Toml
  | .table origin entries =>
    if Assoc.contains name entries then none else some (.table origin (Assoc.set name v entries))
  | _ => none

/-- Whether a value is a table that a dotted name implied. -/
def isDotted : Toml → Bool
  | .table .dotted _ => true
  | _ => false

/-- Gives a name a value. The tables that a dotted name goes through must be due to dotted names. -/
def assign? (path : List Text) (name : Text) (v : Toml) (t : Toml) : Option Toml :=
  update? true (fun t => if t.isDotted == path.isEmpty then none else addEntry? name v t) path t

/-- Begins the table of a header. A table that a longer header implied may get its own one. -/
def beginTable? (name : Text) : Toml → Option Toml
  | .table origin entries =>
    match Assoc.get? name entries with
    | none => some (.table origin (Assoc.set name (.table .header []) entries))
    | some (.table .implied inner) =>
      some (.table origin (Assoc.set name (.table .header inner) entries))
    | some _ => none
  | _ => none

/-- Begins one more table of an array of tables. -/
def beginItem? (name : Text) : Toml → Option Toml
  | .table origin entries =>
    match Assoc.get? name entries with
    | none => some (.table origin (Assoc.set name (.tables [.table .header []]) entries))
    | some (.tables items) =>
      some (.table origin (Assoc.set name (.tables (items ++ [.table .header []])) entries))
    | some _ => none
  | _ => none

/-- A table as a complete value. -/
def close : Toml → Toml
  | .table _ entries => .table .closed entries
  | v => v

end Toml

end HttpExchange
