import Stencil.Files.Url.Percent
import Stencil.Text.Blank

/-!
Addresses of files and directories. A file address is its absolute path, a directory's path ends in
a slash; `text` writes it with every octet that an address cannot hold in percent form. An address
with a host names a file here only if its host is this one.
-/

namespace Stencil

/-- An address with a host; all its parts are in their written form. -/
structure Remote where
  scheme : List Char
  /-- User and password with the sign after them, or nothing. -/
  user : List Char
  host : List Char
  port : Option Nat
  /-- Nothing, or a slash and names with slashes between them. -/
  path : List Char
  /-- The query and the fragment, each after its sign. -/
  tail : List Char
  deriving DecidableEq, Repr

def Remote.text (address : Remote) : List Char :=
  let port :=
    match address.port with
    | some port => ':' :: Nat.toDigits 10 port
    | none => []
  address.scheme ++ [':', '/', '/'] ++ address.user ++ address.host ++ port ++ address.path
    ++ address.tail

inductive Url where
  | file (path : String)
  | remote (address : Remote)
  deriving DecidableEq, Repr

namespace Url

def text : Url → String
  | .file path => "file://" ++ String.ofList (Percent.encode Percent.inName path.toList)
  | .remote address => String.ofList address.text

/-- A drive with its colon is the root of its files. -/
def closeDrive (octets : Bytes) : Bytes :=
  match octets.reverse with
  | last :: letter :: _ :: _ =>
      if (last = 0x3A || last = 0x7C) && (Char.ofNat letter.toNat).isAlpha then octets ++ [0x2F]
      else octets
  | _ => octets

/-- The file that an address stands for: a path on this host. -/
def path? : Url → Option String
  | .file path => some path
  | .remote address =>
      if address.host = "localhost".toList && address.path.head? = some '/' then
        (Utf8.decode? (closeDrive (Percent.decode address.path))).map String.ofList
      else none

end Url

end Stencil
