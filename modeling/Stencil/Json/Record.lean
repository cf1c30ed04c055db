import Stencil.Json.Reader

/-!
Reading an object, or a list, as a record with named fields. Each name may come once, a name that
the record does not have is refused. A list gives the fields in their order.
-/

namespace Stencil.Json

/-- A field: its name and how its value changes the record. -/
structure Slot (σ : Type) where
  name : String
  read : Reader (σ → σ)

/-- A record: what it is called, its fields, its value before any field is read, and whether a list
may end before the last field. -/
structure Record (σ : Type) where
  title : String
  slots : List (Slot σ)
  start : σ
  mayStop : Bool

/-- Why a record could not be read: a fault in the text, or one that gets its place where the object
or the list is left. -/
inductive Trouble where
  | placed (fault : Fault)
  | loose (kind : Fault.Kind) (rest : List Char)

namespace Record

variable {σ : Type}

def names (record : Record σ) : List String :=
  record.slots.map Slot.name

/-- Members up to the closing brace. `seen` holds the names met so far. -/
def memberLoop (record : Record σ) :
    Nat → Bool → List String → σ → List Char → Except Trouble (List String × σ × List Char)
  | 0, _, _, _, input => .error (.placed (.next .wantValue input))
  | fuel + 1, first, seen, value, input =>
      match Reader.nextName first input with
      | .error fault => .error (.placed fault)
      | .ok none => .ok (seen, value, input)
      | .ok (some (name, rest)) =>
          match record.slots.find? (fun slot => slot.name == name) with
          | none => .error (.loose (.unknownField name record.names) rest)
          | some slot =>
              if seen.contains name then .error (.loose (.duplicateField name) rest)
              else
                match Reader.colon rest with
                | .error fault => .error (.placed fault)
                | .ok rest =>
                    match slot.read rest with
                    | .error fault => .error (.placed fault)
                    | .ok (change, rest) =>
                        memberLoop record fuel false (name :: seen) (change value) rest

/-- One item for each of the remaining slots, of which `count` are done. -/
def itemLoop (record : Record σ) :
    List (Slot σ) → Nat → σ → List Char → Except Trouble (σ × List Char)
  | [], _, value, input => .ok (value, input)
  | slot :: slots, count, value, input =>
      match Reader.nextItem (count = 0) input with
      | .error fault => .error (.placed fault)
      | .ok none =>
          if record.mayStop then .ok (value, input)
          else
            .error (.loose (.wrongLength count (record.title ++ " with "
              ++ toString record.slots.length ++ " elements")) input)
      | .ok (some rest) =>
          match slot.read rest with
          | .error fault => .error (.placed fault)
          | .ok (change, rest) => itemLoop record slots (count + 1) (change value) rest

/-- A loose fault is placed after the spaces, and after the closing character where it follows. -/
def settle (closing : Char) : Trouble → Fault
  | .placed fault => fault
  | .loose kind rest =>
      match Reader.skipSpace rest with
      | [] => .here kind []
      | c :: rest => if c = closing then .here kind rest else .here kind (c :: rest)

/-- Reads a record; `finish` may still refuse the fields that were read from an object. -/
def read {α : Type} (record : Record σ) (finish : σ → Except Fault.Kind α) : Reader α :=
  fun input =>
    match Reader.skipSpace input with
    | '[' :: rest =>
        match record.itemLoop record.slots 0 record.start rest with
        | .error trouble => .error (settle ']' trouble)
        | .ok (value, rest) =>
            match finish value with
            | .error kind => .error (settle ']' (.loose kind rest))
            | .ok result =>
                match Reader.closeList rest with
                | .ok rest => .ok (result, rest)
                | .error fault => .error fault
    | '\x7b' :: rest =>
        match record.memberLoop (rest.length + 1) true [] record.start rest with
        | .error trouble => .error (settle '\x7d' trouble)
        | .ok (_, value, rest) =>
            match finish value with
            | .error kind => .error (settle '\x7d' (.loose kind rest))
            | .ok result =>
                match Reader.closeObject rest with
                | .ok rest => .ok (result, rest)
                | .error fault => .error fault
    | _ => .error (Reader.refuse record.title input)

end Record

/-! ### Names of variants -/

def variant {α : Type} (variants : List (String × α)) (name : String) : Except Fault.Kind α :=
  match variants.lookup name with
  | some value => .ok value
  | none => .error (.unknownVariant name (variants.map Prod.fst))

def variantBody {α : Type} (variants : List (String × α)) : Reader α := fun input =>
  match Reader.stringBody input with
  | .error fault => .error fault
  | .ok (name, rest) =>
      match variant variants name with
      | .ok value => .ok (value, rest)
      | .error kind => .error (.here kind rest)

/-- A variant given as its name, or as an object that maps its name to `null`. -/
def choice {α : Type} (variants : List (String × α)) : Reader α := fun input =>
  match Reader.skipSpace input with
  | [] => .error (.next .endInValue [])
  | '\x22' :: rest => variantBody variants rest
  | '\x7b' :: rest =>
      let named : Except Fault (α × List Char) :=
        match Reader.skipSpace rest with
        | '\x22' :: rest => variantBody variants rest
        | _ => .error (Reader.refuse "variant identifier" rest)
      match named with
      | .error fault => .error fault
      | .ok (value, rest) =>
          match Reader.colon rest with
          | .error fault => .error fault
          | .ok rest =>
              let unit : Except Fault (List Char) :=
                match Reader.skipSpace rest with
                | 'n' :: rest => Reader.ident ['u', 'l', 'l'] rest
                | _ => .error (Reader.refuse "unit" rest)
              match unit with
              | .error fault => .error fault
              | .ok rest =>
                  match Reader.skipSpace rest with
                  | '\x7d' :: rest => .ok (value, rest)
                  | [] => .error (.here .endInObject [])
                  | rest => .error (.here .wantValue rest)
  | rest => .error (.next .wantValue rest)

end Stencil.Json
