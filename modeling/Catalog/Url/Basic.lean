import Catalog.Url.Address

/-! # Addresses of resources

An address has a scheme, perhaps a place on the net, a path, a query and a fragment. Two addresses
with the same parts are written the same.
-/

namespace Catalog

namespace Url

/-- What a place on the net is called. -/
inductive Host where
  | name (text : List Char)
  | ipv4 (address : Nat)
  | ipv6 (pieces : List Nat)
  deriving DecidableEq, Repr

def Host.render : Host → List Char
  | name text => text
  | ipv4 address => renderIpv4 address
  | ipv6 pieces => '[' :: renderIpv6 pieces ++ [']']

structure Authority where
  user : List Char
  password : List Char
  host : Host
  /-- Absent if it is the usual one. -/
  portNumber : Option Nat
  deriving DecidableEq, Repr

def Authority.render (a : Authority) : List Char :=
  let password := if a.password.isEmpty then [] else ':' :: a.password
  let login := if a.user.isEmpty && a.password.isEmpty then [] else a.user ++ password ++ ['@']
  login ++ a.host.render ++ a.portNumber.elim [] fun n => ':' :: (toString n).toList

inductive Path where
  /-- Segments, each behind a slash. -/
  | segments (parts : List (List Char))
  /-- A text without structure, as in `mailto:a@b.c`. -/
  | plain (text : List Char)
  deriving DecidableEq, Repr

end Url

/-- An address of a resource; every part is kept in its escaped form. -/
structure Url where
  scheme : List Char
  authority : Option Url.Authority
  path : Url.Path
  query : Option (List Char)
  fragment : Option (List Char)
  deriving DecidableEq, Repr

namespace Url

/-- Without an authority two slashes at the start of a path would announce one, so that `/.` stands
before them. -/
def renderPath (authority : Option Authority) : Path → List Char
  | .plain text => text
  | .segments parts =>
    let text := parts.flatMap ('/' :: ·)
    match authority, parts with
    | none, [] :: _ :: _ => '/' :: '.' :: text
    | _, _ => text

def render (u : Url) : String :=
  String.ofList <| u.scheme ++ [':'] ++ (u.authority.elim [] fun a => '/' :: '/' :: a.render) ++
    renderPath u.authority u.path ++ (u.query.elim [] ('?' :: ·)) ++ u.fragment.elim [] ('#' :: ·)

end Url

end Catalog
