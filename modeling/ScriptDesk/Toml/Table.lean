import ScriptDesk.Text.Basic

/-!
# Tables of a TOML document

A document is a table of items. A table comes from a header of its own, from the header of a table
inside it, or from a dotted key, and this decides what may still be added to it: a header may open a
table once, dotted keys extend only what dotted keys made, and a key is given a value only once.
Arrays and inline tables are complete where they stand and nothing can be added to them.
-/

namespace ScriptDesk.Toml

/-- Where a table comes from. -/
inductive Origin where
  /-- A header of its own. -/
  | header
  /-- The header of a table inside it. -/
  | implied
  /-- A dotted key. -/
  | dotted
  deriving DecidableEq, Repr

/-- What a key stands for. -/
inductive Item where
  /-- A string. -/
  | text (value : Text)
  /-- An integer. -/
  | integer (value : Int)
  /-- Any other value. -/
  | other
  /-- A table that is not inline. -/
  | table (origin : Origin) (entries : List (Text × Item))
  /-- An array of tables, each opened by a header. -/
  | tables (all : List (List (Text × Item)))

/-- The keys of a table with their items. -/
abbrev Entries := List (Text × Item)

namespace Entries

/-- The item of a key. -/
def get? (entries : Entries) (key : Text) : Option Item :=
  entries.lookup key

/-- The entries with another item for a key that is there. -/
def replace (entries : Entries) (key : Text) (item : Item) : Entries :=
  entries.map fun entry => if entry.1 = key then (key, item) else entry

/-- Change the table that a path of keys leads to. Missing tables are made, with the given origin;
of an array of tables the last one is meant. With dotted keys no table is entered that has a header
of its own. -/
def alter (made : Origin) (change : Origin → Entries → Option Entries) :
    List Text → Origin → Entries → Option Entries
  | [], origin, entries => change origin entries
  | key :: path, _, entries =>
    match entries.get? key with
    | none => (alter made change path made []).map fun inner =>
        entries ++ [(key, .table made inner)]
    | some (.table origin inner) =>
      if made = .dotted ∧ origin = .header then none
      else (alter made change path origin inner).map fun inner =>
        entries.replace key (.table origin inner)
    | some (.tables all) =>
      match all.getLast? with
      | none => none
      | some last => (alter made change path .header last).map fun last =>
          entries.replace key (.tables (all.dropLast ++ [last]))
    | some _ => none

/-- Give a value to a key that has none, in the table that the dotted path leads to. -/
def assign (entries : Entries) (path : List Text) (key : Text) (item : Item) : Option Entries :=
  entries.alter .dotted
    (fun origin inner =>
      if path ≠ [] ∧ origin ≠ .dotted then none
      else if (inner.get? key).isSome then none
      else some (inner ++ [(key, item)]))
    path .header

/-- Open a table by its header. -/
def openTable (entries : Entries) (path : List Text) (key : Text) : Option Entries :=
  entries.alter .implied
    (fun _ inner =>
      match inner.get? key with
      | none => some (inner ++ [(key, .table .header [])])
      | some (.table .implied known) => some (inner.replace key (.table .header known))
      | some _ => none)
    path .header

/-- Open a further table of an array by its header. -/
def openElement (entries : Entries) (path : List Text) (key : Text) : Option Entries :=
  entries.alter .implied
    (fun _ inner =>
      match inner.get? key with
      | none => some (inner ++ [(key, .tables [[]])])
      | some (.tables all) => some (inner.replace key (.tables (all ++ [[]])))
      | some _ => none)
    path .header

/-- Give a value to a key in the table that was opened last. -/
def assignIn (entries : Entries) (table : List Text) (path : List Text) (key : Text)
    (item : Item) : Option Entries :=
  entries.alter .implied (fun _ inner => assign inner path key item) table .header

end Entries

end ScriptDesk.Toml
