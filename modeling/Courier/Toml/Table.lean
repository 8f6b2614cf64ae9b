import Courier.Config.Document
import Courier.Toml.Scan

/-!
# Tables under construction

A document fills a tree of tables by paths of keys. How a table came to be decides what
may still be added to it: a table that only lies on the path of a header may get a header
of its own, one that was made by a dotted key may only be extended by dotted keys, and
everything else is complete where it stands.
-/

namespace Courier.Toml

/-- How a table came to be. -/
inductive Origin where
  /-- It lies on the path to a table with a header. -/
  | passed
  /-- It lies on the path of a dotted key. -/
  | dotted
  /-- It has a header of its own, or is the whole document. -/
  | headed
deriving DecidableEq, Repr

/-- What a key holds. -/
inductive Node where
  /-- A value, which is complete. -/
  | leaf (value : Document)
  | table (origin : Origin) (entries : List (String × Node))
  /-- The tables under a repeated header, the latest first. -/
  | series (elements : List (List (String × Node)))
deriving Inhabited

/-- The keys of a table and what they hold, in the order of their first mention. -/
abbrev Entries := List (String × Node)

namespace Entries

/-- What a key holds. -/
def get? (entries : Entries) (key : String) : Option Node :=
  (entries.find? (·.1 == key)).map (·.2)

/-- Lets a key hold something, in the place it already has or behind all others. -/
def set (entries : Entries) (key : String) (node : Node) : Entries :=
  match entries with
  | [] => [(key, node)]
  | (k, n) :: rest => if k = key then (k, node) :: rest else (k, n) :: set rest key node

/-- Changes the table at the end of a path. Tables that are missing on the way are made
with the origin `made`; the latest table of a series stands for the series; and a path of
dotted keys may not enter a table that has a header. -/
def change (made : Origin) (f : Origin → Entries → Except Fault Entries) :
    List String → Origin → Entries → Except Fault Entries
  | [], origin, entries => f origin entries
  | key :: path, _, entries =>
    match get? entries key with
    | none => (change made f path made []).map fun es => set entries key (.table made es)
    | some (.leaf _) => .error (.notATable key)
    | some (.series []) => .error (.notATable key)
    | some (.series (latest :: others)) =>
      (change made f path .headed latest).map fun es => set entries key (.series (es :: others))
    | some (.table origin es) =>
      if made = .dotted ∧ origin = .headed then .error (.redefined key)
      else (change made f path origin es).map fun es => set entries key (.table origin es)

/-- Adds a value under a dotted key, given as the keys before the last and the last. A
key of one part may not be added to a table that dotted keys made, nor one of several
parts to any other. -/
def add (path : List String) (key : String) (value : Document) (origin : Origin)
    (entries : Entries) : Except Fault Entries :=
  change .dotted (fun origin entries =>
    if (origin == .dotted) == path.isEmpty then .error (.redefined key)
    else
      match get? entries key with
      | some _ => .error (.redefined key)
      | none => .ok (set entries key (.leaf value)))
    path origin entries

/-- Starts the table of a header. A table that was only passed so far keeps what is in
it. -/
def startTable (path : List String) (key : String) (entries : Entries) :
    Except Fault Entries :=
  change .passed (fun _ entries =>
    match get? entries key with
    | none => .ok (set entries key (.table .headed []))
    | some (.table .passed es) => .ok (set entries key (.table .headed es))
    | some _ => .error (.redefined key))
    path .headed entries

/-- Starts one more table of a repeated header. -/
def startElement (path : List String) (key : String) (entries : Entries) :
    Except Fault Entries :=
  change .passed (fun _ entries =>
    match get? entries key with
    | none => .ok (set entries key (.series [[]]))
    | some (.series elements) => .ok (set entries key (.series ([] :: elements)))
    | some _ => .error (.redefined key))
    path .headed entries

end Entries

mutual

/-- What a node stands for. -/
def Node.toDocument : Node → Document
  | .leaf value => value
  | .table _ entries => .table (entryDocuments entries)
  | .series elements => .list (elementDocuments elements)

/-- What the entries of a table stand for. -/
def entryDocuments : List (String × Node) → List (String × Document)
  | [] => []
  | (key, node) :: rest => (key, node.toDocument) :: entryDocuments rest

/-- What the tables of a series stand for, the earliest first. -/
def elementDocuments : List (List (String × Node)) → List Document
  | [] => []
  | entries :: rest => elementDocuments rest ++ [.table (entryDocuments entries)]

end

end Courier.Toml
