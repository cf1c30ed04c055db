/-!
Values of a TOML document, and the rules by which keys and headers may add to its tables. A table
remembers what brought it about, because that decides what may still be added.
-/

namespace Stencil.Toml

inductive Fault where
  /-- A key, or a table, that is there already. -/
  | duplicateKey
  | malformed
  deriving DecidableEq, Repr

/-- What brought a table about. -/
inductive Origin where
  /-- Braces; such a table is closed for good. -/
  | inline
  /-- A key of several parts, as `a` in `a.b = 1`. -/
  | dotted
  /-- A header of a table below it, as `a` in `[a.b]`. -/
  | implied
  /-- A header of its own. -/
  | header
  deriving DecidableEq, Repr

/-- A value. Numbers and moments are told apart from other values and from each other, no more. -/
inductive Value where
  | text (text : String)
  | number
  | moment
  | boolean (value : Bool)
  | array (items : List Value)
  | table (origin : Origin) (entries : List (String × Value))
  /-- The tables of one repeated header, the last one first. -/
  | tables (entries : List (List (String × Value)))
  deriving Repr

/-- The entries of a table in the order in which their keys first appear. -/
abbrev Entries := List (String × Value)

namespace Entries

def add (entries : Entries) (key : String) (value : Value) : Entries :=
  entries ++ [(key, value)]

/-- Puts a value in the place of the one that has its key. -/
def replace (entries : Entries) (key : String) (value : Value) : Entries :=
  entries.map fun entry => if entry.1 = key then (key, value) else entry

def erase (entries : Entries) (key : String) : Entries :=
  entries.filter fun entry => entry.1 != key

/-- Adds a value under a key of several parts. The tables on the way, other than those of repeated
headers, have to be of dotted keys themselves. `inner` says whether a part of the key was passed,
`isDotted` whether the table at hand is of dotted keys, `inBraces` whether the whole stands between
braces. -/
def assign (inBraces : Bool) (value : Value) :
    (inner isDotted : Bool) → Entries → String → List String → Except Fault Entries
  | inner, isDotted, entries, key, [] =>
      if inner != isDotted || (entries.lookup key).isSome then .error .duplicateKey
      else .ok (add entries key value)
  | _, _, entries, key, next :: rest =>
      match entries.lookup key with
      | none =>
          (assign inBraces value true true [] next rest).map fun below =>
            add entries key (.table .dotted below)
      | some (.table .inline _) => .error (if inBraces then .duplicateKey else .malformed)
      | some (.table .header _) => .error .duplicateKey
      | some (.table origin below) =>
          (assign inBraces value true (origin = .dotted) below next rest).map fun below =>
            replace entries key (.table origin below)
      | some (.tables (last :: others)) =>
          (assign inBraces value true false last next rest).map fun last =>
            replace entries key (.tables (last :: others))
      | some _ => .error .malformed

/-- Changes the table that the first parts of a header lead to. What is not there yet is implied. -/
def below {α : Type} (change : Entries → Except Fault (Entries × α)) :
    Entries → List String → Except Fault (Entries × α)
  | entries, [] => change entries
  | entries, key :: rest =>
      match entries.lookup key with
      | none =>
          (below change [] rest).map fun (inner, result) =>
            (add entries key (.table .implied inner), result)
      | some (.table .inline _) => .error .malformed
      | some (.table origin inner) =>
          (below change inner rest).map fun (inner, result) =>
            (replace entries key (.table origin inner), result)
      | some (.tables (last :: others)) =>
          (below change last rest).map fun (last, result) =>
            (replace entries key (.tables (last :: others)), result)
      | some _ => .error .malformed

end Entries

/-! ### Headers -/

/-- Where a header puts its table. -/
structure Header where
  repeated : Bool
  parents : List String
  key : String
  deriving DecidableEq, Repr

/-- A document that is being read: its tables so far, and the one at hand. -/
structure Draft where
  root : Entries := []
  current : Entries := []
  /-- Where the table at hand goes; without a header it is the root. -/
  header : Option Header := none

namespace Draft

/-- The document with the table at hand in its place. -/
def close (draft : Draft) : Except Fault Entries :=
  match draft.header with
  | none => .ok draft.current
  | some header =>
      let put (entries : Entries) : Except Fault (Entries × Unit) :=
        match header.repeated, entries.lookup header.key with
        | true, none => .ok (entries.add header.key (.tables [draft.current]), ())
        | true, some (.tables tables) =>
            .ok (entries.replace header.key (.tables (draft.current :: tables)), ())
        | false, none => .ok (entries.add header.key (.table .header draft.current), ())
        | _, some _ => .error .duplicateKey
      (Entries.below put draft.root header.parents).map Prod.fst

/-- Begins the table of a header. One that was only implied goes on; any other may not be there. -/
def start (draft : Draft) (header : Header) : Except Fault Draft := do
  let root ← draft.close
  let take (entries : Entries) : Except Fault (Entries × Entries) :=
    match header.repeated, entries.lookup header.key with
    | true, none => .ok (entries.add header.key (.tables []), [])
    | true, some (.tables _) => .ok (entries, [])
    | false, none => .ok (entries, [])
    | false, some (.table .implied inner) => .ok (entries.erase header.key, inner)
    | _, some _ => .error .duplicateKey
  let (root, current) ← Entries.below take root header.parents
  return { root, current, header := some header }

def assign (draft : Draft) (key : String) (rest : List String) (value : Value) :
    Except Fault Draft :=
  (Entries.assign false value false false draft.current key rest).map fun current =>
    { draft with current }

end Draft

end Stencil.Toml
