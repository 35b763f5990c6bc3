import FormMarkup.Toml.Value

namespace FormMarkup.Toml

/-- A place in a document under construction. A table that no header has opened is `implied`; one
that a dotted key has made is also `dotted`. The tables of an array come latest first. -/
inductive Node where
  | value (v : Toml)
  | table (implied dotted : Bool) (entries : List (String × Node))
  | tables (latest : List (String × Node)) (earlier : List (List (String × Node)))
  deriving Inhabited

abbrev Entries := Pairs Node

def Entries.alter (dotted : Bool) (change : Bool → Entries → Option Entries) :
    List String → Bool → Entries → Option Entries
  | [], own, entries => change own entries
  | name :: path, _, entries =>
      match Pairs.find? name entries with
      | none =>
          match Entries.alter dotted change path dotted [] with
          | none => none
          | some inner => some (Pairs.put name (.table true dotted inner) entries)
      | some (.value _) => none
      | some (.table implied own inner) =>
          if dotted && !implied then none
          else match Entries.alter dotted change path own inner with
            | none => none
            | some inner => some (Pairs.put name (.table implied own inner) entries)
      | some (.tables latest earlier) =>
          match Entries.alter dotted change path false latest with
          | none => none
          | some latest => some (Pairs.put name (.tables latest earlier) entries)

def Entries.addPair (entries : Entries) (key : List String × String) (v : Toml) : Option Entries :=
  Entries.alter true (fun own inner =>
    if own == key.1.isEmpty then none
    else match Pairs.find? key.2 inner with
      | some _ => none
      | none => some (Pairs.put key.2 (.value v) inner)) key.1 false entries

abbrev Pair := (List String × String) × Toml

def Entries.addPairs : List Pair → Entries → Option Entries
  | [], entries => some entries
  | (key, v) :: pairs, entries => (entries.addPair key v).bind (Entries.addPairs pairs)

inductive Header where
  | table (path : List String) (name : String)
  | element (path : List String) (name : String)
  deriving DecidableEq, Repr

structure Section where
  header : Header
  pairs : List Pair

def Entries.addSection (s : Section) (root : Entries) : Option Entries :=
  match s.header with
  | .table path name =>
      Entries.alter false (fun _ inner =>
        match Pairs.find? name inner with
        | none =>
            (Entries.addPairs s.pairs []).map fun es =>
              Pairs.put name (.table false false es) inner
        | some (.table true false old) =>
            (Entries.addPairs s.pairs old).map fun es =>
              Pairs.put name (.table false false es) inner
        | some _ => none) path false root
  | .element path name =>
      Entries.alter false (fun _ inner =>
        match Pairs.find? name inner with
        | none => (Entries.addPairs s.pairs []).map fun es => Pairs.put name (.tables es []) inner
        | some (.tables latest earlier) =>
            (Entries.addPairs s.pairs []).map fun es =>
              Pairs.put name (.tables es (latest :: earlier)) inner
        | some _ => none) path false root

mutual

def Node.toToml : Node → Toml
  | .value v => v
  | .table _ _ entries => .table (entriesToToml entries)
  | .tables latest earlier =>
      .list ((tablesToToml earlier).reverse ++ [.table (entriesToToml latest)])

def entriesToToml : List (String × Node) → List (String × Toml)
  | [] => []
  | (name, node) :: entries => (name, node.toToml) :: entriesToToml entries

def tablesToToml : List (List (String × Node)) → List Toml
  | [] => []
  | entries :: rest => .table (entriesToToml entries) :: tablesToToml rest

end

def inlineTable (pairs : List Pair) : Option Toml :=
  (Entries.addPairs pairs []).map fun es => .table (entriesToToml es)

def assemble (pairs : List Pair) (sections : List Section) : Option Toml :=
  ((Entries.addPairs pairs []).bind fun root =>
    sections.foldlM (fun root s => Entries.addSection s root) root).map fun es =>
      .table (entriesToToml es)

end FormMarkup.Toml
