import Stencil.Files.Url
import Stencil.Files.Url.Host

/-!
Reading addresses. What stands before the first colon decides how the rest is read: on the web both
slashes separate, the host is a name or a number and the path is never empty; a file keeps its
drive; elsewhere the host is taken as it is. `Remote.ofText?` reads an address with a host.
-/

namespace Stencil.Remote

/-- How the addresses of a scheme are read; the web has a usual port for each scheme. -/
inductive Kind where
  | file
  | web (port : Nat)
  | other
  deriving DecidableEq, Repr

def Kind.ofScheme (scheme : List Char) : Kind :=
  match String.ofList scheme with
  | "file" => .file
  | "http" => .web 80
  | "ws" => .web 80
  | "https" => .web 443
  | "wss" => .web 443
  | "ftp" => .web 21
  | _ => .other

def Kind.slashesBoth : Kind → Bool
  | .other => false
  | _ => true

def Kind.isSlash (kind : Kind) (c : Char) : Bool :=
  c = '/' || (kind.slashesBoth && c = '\\')

/-- A text without white space around it and without the ends of lines in it. -/
def stripped (text : List Char) : List Char :=
  let start := text.dropWhile (fun c => c.toNat ≤ 0x20)
  let inner := (start.reverse.dropWhile (fun c => c.toNat ≤ 0x20)).reverse
  inner.filter (fun c => c != '\t' && c != '\n' && c != '\r')

def isSchemeChar (c : Char) : Bool :=
  c.isAlphanum || c = '+' || c = '-' || c = '.'

def scheme? (text : List Char) : Option (List Char × List Char) :=
  let scheme := text.takeWhile isSchemeChar
  match text.drop scheme.length with
  | ':' :: rest =>
      if scheme.head?.any Char.isAlpha then some (scheme.map Char.toLower, rest) else none
  | _ => none

/-! ### User, host and port -/

/-- User and password before the host; a password without anything in it is left out. -/
def userText (text : List Char) : List Char :=
  let name := text.takeWhile (fun c => c != ':')
  let password := text.drop (name.length + 1)
  if name.isEmpty && password.isEmpty then []
  else
    Percent.encode Percent.inUser name
      ++ (if password.isEmpty then [] else ':' :: Percent.encode Percent.inUser password) ++ ['@']

def splitUser (text : List Char) : List Char × List Char :=
  let after := (text.reverse.takeWhile (fun c => c != '@')).reverse
  if after.length = text.length then ([], text)
  else (text.take (text.length - after.length - 1), after)

def hostLength : Bool → List Char → Nat
  | _, [] => 0
  | inside, c :: rest =>
      if c = ':' && !inside then 0
      else hostLength (if c = '[' then true else if c = ']' then false else inside) rest + 1

/-- The port after the host, if it is not the usual one, and what follows. -/
def port? (usual : Option Nat) : List Char → Option (Option Nat × List Char)
  | ':' :: rest =>
      let digits := rest.takeWhile Char.isDigit
      let value := digits.foldl (fun value c => value * 10 + (c.toNat - 48)) 0
      let after := rest.drop digits.length
      if 0xFFFF < value || after.head?.any (fun c => c != '\\') then none
      else some (if digits.isEmpty || usual = some value then none else some value, after)
  | [] => some (none, [])
  | _ => none

/-! ### Path, query and fragment -/

def isDrive : List Char → Bool
  | [letter, mark] => letter.isAlpha && (mark = ':' || mark = '|')
  | _ => false

/-- A name as far as its dots go, with a dot in percent form read as one. -/
def dots : List Char → List Char
  | '%' :: '2' :: 'e' :: rest => '.' :: dots rest
  | '%' :: '2' :: 'E' :: rest => '.' :: dots rest
  | c :: rest => c :: dots rest
  | [] => []

/-- The names of a path, the last one first, after one more name. Two dots take the last name away
unless it is a drive. -/
def shorten (names : List (List Char)) (name : List Char) (last : Bool) : List (List Char) :=
  let ended (names : List (List Char)) : List (List Char) := if last then [] :: names else names
  if dots name = ['.'] then ended names
  else if dots name = ['.', '.'] then
    match names with
    | [] => ended []
    | name :: others => ended (if isDrive name then names else others)
  else name :: names

def shortenAll : List (List Char) → List (List Char) → List (List Char)
  | held, [] => held.reverse
  | held, [name] => (shorten held name true).reverse
  | held, name :: rest => shortenAll (shorten held name false) rest

def pathText (kind : Kind) (path : List Char) : List Char :=
  let slashed := path.map (fun c => if kind.isSlash c then '/' else c)
  let names := (Text.splitOn '/' (slashed.drop 1)).map (Percent.encode Percent.inPath)
  '/' :: List.intercalate ['/'] (shortenAll [] names)

def tailText (kind : Kind) : List Char → List Char
  | '?' :: rest =>
      let query := rest.takeWhile (fun c => c != '#')
      '?' :: Percent.encode (Percent.inQuery kind.slashesBoth) query
        ++ fragmentText (rest.drop query.length)
  | rest => fragmentText rest
where
  fragmentText : List Char → List Char
    | '#' :: rest => '#' :: Percent.encode Percent.inFragment rest
    | _ => []

def pathAndTail (kind : Kind) (text : List Char) : List Char × List Char :=
  let path := text.takeWhile (fun c => c != '?' && c != '#')
  let tail := tailText kind (text.drop path.length)
  let rooted := if path.head?.any kind.isSlash then path else '/' :: path
  if kind = .other && path.isEmpty then ([], tail) else (pathText kind rooted, tail)

/-! ### Addresses -/

/-- What follows the two slashes of an address with a host. -/
def afterSlashes? (kind : Kind) (scheme text : List Char) : Option Remote := do
  let authority := text.takeWhile (fun c => !kind.isSlash c && c != '?' && c != '#')
  let (user, place) := splitUser authority
  let host := place.take (hostLength false place)
  let usual :=
    match kind with
    | .web port => some port
    | _ => none
  let (port, more) ← port? usual (place.drop host.length)
  let written ← if kind = .other then Host.ofOther? host else Host.ofWeb? host
  if written.isEmpty then none
  else
    let (path, tail) := pathAndTail kind (more ++ text.drop authority.length)
    some { scheme, user := userText user, host := written, port, path, tail }

/-- What follows the two slashes of the address of a file on a host. A drive anywhere in the path
means that there is no host. -/
def afterFileSlashes? (scheme text : List Char) : Option Remote := do
  let host := text.takeWhile (fun c => !Kind.file.isSlash c && c != '?' && c != '#')
  let rest := text.drop host.length
  if host.isEmpty || isDrive host then none
  else
    let written ← Host.ofWeb? host
    let names := Text.splitOn '/' ((rest.takeWhile (fun c => c != '?' && c != '#')).map
      fun c => if Kind.file.isSlash c then '/' else c)
    if written = "localhost".toList || names.any isDrive then none
    else
      let (path, tail) := pathAndTail .file rest
      let path := '/' :: path.dropWhile (fun c => c = '/')
      some { scheme, user := [], host := written, port := none, path, tail }

def ofText? (text : List Char) : Option Remote := do
  let (scheme, rest) ← scheme? (stripped text)
  match Kind.ofScheme scheme, rest with
  | .web port, rest => afterSlashes? (.web port) scheme (rest.dropWhile (Kind.web port).isSlash)
  | .other, '/' :: '/' :: rest => afterSlashes? .other scheme rest
  | .file, first :: second :: rest =>
      if Kind.file.isSlash first && Kind.file.isSlash second then afterFileSlashes? scheme rest
      else none
  | _, _ => none

end Stencil.Remote

namespace Stencil.Url

/-- An address with a host: a scheme, two slashes and a host. -/
def remote? (address : String) : Option Url :=
  Url.remote <$> Remote.ofText? address.toList

end Stencil.Url
