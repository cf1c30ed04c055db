import Stencil.Toml.Reader

/-!
TOML documents: lines that hold a key with its value, a header, or nothing.
-/

namespace Stencil.Toml

namespace Reader

def header : Reader Header := do
  let repeated ← accept "["
  let (first, rest) ← key
  expect "]"
  if repeated then expect "]"
  restOfLine
  return { repeated, parents := (first :: rest).dropLast, key := rest.getLastD first }

def lineOf (draft : Draft) (c : Char) : Reader Draft := do
  if c = '[' then
    drop 1
    draft.start (← header)
  else if c = '#' || c = '\n' || c = '\r' then
    comment
    if !(← newline) && !(← get).isEmpty then malformed
    return draft
  else
    let (first, rest) ← key
    expect "="
    blanks
    let value ← value depthLimit
    restOfLine
    draft.assign first rest value

def lines : Nat → Draft → Reader Draft
  | 0, draft => return draft
  | fuel + 1, draft => do
      blanks
      match ← peek with
      | none => return draft
      | some c => lines fuel (← lineOf draft c)

end Reader

/-- The entries of the topmost table. A byte order mark at the start is no part of the text. -/
def parse (text : String) : Except Fault Entries := do
  let input :=
    match text.toList with
    | '\uFEFF' :: rest => rest
    | input => input
  let (draft, _) ← (Reader.lines (input.length + 1) {}).run input
  draft.close

end Stencil.Toml
