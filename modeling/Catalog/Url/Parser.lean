import Catalog.Text.Cut
import Catalog.Url.Basic
import Catalog.Url.Domain

/-! # Reading addresses

A text is read as an address on its own, or relative to the address of a page. What is missing in
front is then taken from the page: its scheme, its authority, or the segments of its path.
-/

namespace Catalog.Url

open Text (cutAt? cutLast?)

/-- How addresses of a scheme are built. -/
inductive Kind where
  /-- There is a host, a path, and a usual number behind the host; a backslash counts as a slash. -/
  | web (portNumber : Nat)
  | file
  | other
  deriving DecidableEq, Repr

def Kind.isSpecial : Kind → Bool
  | other => false
  | _ => true

def kindOf (scheme : List Char) : Kind :=
  match String.ofList scheme with
  | "http" | "ws" => .web 80
  | "https" | "wss" => .web 443
  | "ftp" => .web 21
  | "file" => .file
  | _ => .other

/-- Controls and spaces at the ends and all tabs and line ends are no part of an address. -/
def cleanse (s : List Char) : List Char :=
  let front := s.dropWhile fun c => c.toNat ≤ 0x20
  let body := (front.reverse.dropWhile fun c => c.toNat ≤ 0x20).reverse
  body.filter fun c => c != '\t' && c != '\n' && c != '\r'

def cutScheme? (s : List Char) : Option (List Char × List Char) :=
  let name := s.takeWhile fun c => c.isAlphanum || c == '+' || c == '-' || c == '.'
  match name, s.drop name.length with
  | c :: _, ':' :: rest => if c.isAlpha then some (name.map Char.toLower, rest) else none
  | _, _ => none

def isSlash (kind : Kind) (c : Char) : Bool := c == '/' || (c == '\\' && kind.isSpecial)

def endsAuthority (kind : Kind) (c : Char) : Bool := isSlash kind c || c == '?' || c == '#'

def readFragment (s : List Char) : Option (List Char) :=
  match s with
  | '#' :: r => some (escape inFragment r)
  | _ => none

def readQuery (kind : Kind) (s : List Char) : Option (List Char) :=
  match s with
  | '?' :: r =>
    some (escape (if kind.isSpecial then inWebQuery else inQuery) (r.takeWhile (· != '#')))
  | _ => none

/-- Adds the query and the fragment that a text starts with. -/
def withTail (kind : Kind) (u : Url) (s : List Char) : Url :=
  { u with query := readQuery kind s, fragment := readFragment (s.dropWhile (· != '#')) }

def splitSegments (kind : Kind) : List Char → List (List Char)
  | [] => [[]]
  | c :: r =>
    if isSlash kind c then [] :: splitSegments kind r
    else
      match splitSegments kind r with
      | part :: parts => (c :: part) :: parts
      | [] => [[c]]

/-- Points may be escaped where a segment names the place itself or the one above. -/
def plainPoints : List Char → List Char
  | '%' :: '2' :: 'e' :: r => '.' :: plainPoints r
  | '%' :: '2' :: 'E' :: r => '.' :: plainPoints r
  | c :: r => c :: plainPoints r
  | [] => []

def isHere (part : List Char) : Bool := plainPoints part == ['.']

def isAbove (part : List Char) : Bool := plainPoints part == ['.', '.']

def isDrive (part : List Char) : Bool :=
  match part with
  | [c, d] => c.isAlpha && (d == ':' || d == '|')
  | _ => false

/-- The segments above; `done` holds the segments read so far, the last one first. The drive of a
file has nothing above it. -/
def goUp (kind : Kind) : List (List Char) → List (List Char)
  | [] => []
  | part :: done => if kind = .file && isDrive part then part :: done else done

/-- Walks along segments from those in `done`. A path that ends at a place ends in a slash. -/
def walk (kind : Kind) (done : List (List Char)) : List (List Char) → List (List Char)
  | [] => done.reverse
  | part :: rest =>
    let last (done : List (List Char)) : List (List Char) := if rest.isEmpty then [] :: done else done
    if isAbove part then walk kind (last (goUp kind done)) rest
    else if isHere part then walk kind (last done) rest
    else
      let part := if kind = .file && done.isEmpty && isDrive part then part.take 1 ++ [':'] else part
      walk kind (escape inPath part :: done) rest

/-- The path that a text starts with, walked from the segments in `done`, and what follows it. -/
def readPath (kind : Kind) (done : List (List Char)) (s : List Char) :
    List (List Char) × List Char :=
  let path := s.takeWhile fun c => c != '?' && c != '#'
  (walk kind done (splitSegments kind path), s.drop path.length)

/-- The path of a file has no empty segments in front. -/
def dropEmptyFront : List (List Char) → List (List Char)
  | [] :: part :: rest => dropEmptyFront (part :: rest)
  | parts => parts

def readRootPath (kind : Kind) (s : List Char) : List (List Char) × List Char :=
  match s with
  | [] => if kind.isSpecial then ([[]], []) else ([], [])
  | c :: r =>
    if isSlash kind c then readPath kind [] r
    else if !kind.isSpecial && (c == '?' || c == '#') then ([], s)
    else readPath kind [] s

/-- The user, the password and what follows the last `@`. -/
def readLogin? (kind : Kind) (s : List Char) : Option (List Char × List Char × List Char) :=
  let head := s.takeWhile fun c => !endsAuthority kind c
  let tail := s.drop head.length
  match cutLast? '@' head with
  | none => some ([], [], s)
  | some ([], after) => if after.isEmpty && !tail.isEmpty then none else some ([], [], after ++ tail)
  | some (before, after) =>
    let (user, password) := (cutAt? [':'] before).getD (before, [])
    some (escape inUserInfo user, escape inUserInfo password, after ++ tail)

/-- The text of the host, up to a colon outside brackets or the end of the authority. -/
def cutHost (kind : Kind) (inside : Bool) : List Char → List Char × List Char
  | [] => ([], [])
  | c :: r =>
    if (c == ':' && !inside) || endsAuthority kind c then ([], c :: r)
    else
      let (host, rest) := cutHost kind (c == '[' || (inside && c != ']')) r
      (c :: host, rest)

def isForbiddenInHost (c : Char) : Bool := "\x00\t\n\r #/:<>?@[\\]^|".toList.contains c

def readHost? (kind : Kind) (s : List Char) : Option Host :=
  match s with
  | '[' :: r => if r.getLast? = some ']' then (ipv6? r.dropLast).map .ipv6 else none
  | _ =>
    if kind.isSpecial then do
      let name ← domain? s
      if endsInNumber name then (ipv4? name).map .ipv4 else some (.name name)
    else if s.any isForbiddenInHost then none
    else some (.name (escape (fun _ => false) s))

/-- The number behind the colon of a host, if it is not the usual one, and what follows it. -/
def portNumber? (kind : Kind) (s : List Char) : Option (Option Nat × List Char) :=
  let digits := s.takeWhile Char.isDigit
  let rest := s.drop digits.length
  let ends := rest.head?.elim true fun c => c == '/' || c == '\\' || c == '?' || c == '#'
  match valueOf? 10 digits with
  | some n =>
    if !ends || 65535 < n then none
    else if digits.isEmpty || kind = .web n then some (none, rest)
    else some (some n, rest)
  | none => none

/-- What follows the two slashes of an address of a scheme. -/
def readAuthority? (scheme : List Char) (kind : Kind) (s : List Char) : Option Url := do
  let (user, password, s) ← readLogin? kind s
  let (text, s) := cutHost kind false s
  if text.isEmpty && kind.isSpecial then none
  let host ← readHost? kind text
  let nameless := host = .name []
  if nameless && (s.head? = some ':' || !user.isEmpty || !password.isEmpty) then none
  let (portNumber, s) ← match s with
    | ':' :: r => portNumber? kind r
    | _ => some (none, s)
  let (path, s) := readRootPath kind s
  some (withTail kind ⟨scheme, some ⟨user, password, host, portNumber⟩, .segments path, none, none⟩ s)

def fileUrl (host : Host) (s : List Char) : Url :=
  let (path, s) := readPath .file [] s
  withTail .file
    ⟨"file".toList, some ⟨[], [], host, none⟩, .segments (dropEmptyFront path), none, none⟩ s

def readFileHost? (s : List Char) : Option Url :=
  let text := s.takeWhile fun c => !endsAuthority .file c
  let rest := s.drop text.length
  if text.isEmpty || isDrive text then some (fileUrl (.name []) s)
  else do
    let host ← readHost? .file text
    let host := if host = .name "localhost".toList then .name [] else host
    let path := if rest.head?.elim false (isSlash .file) then rest.tail else rest
    some (fileUrl host path)

/-- What follows the colon of an address of a file. -/
def readFile? (s : List Char) : Option Url :=
  match s with
  | a :: b :: r =>
    if isSlash .file a && isSlash .file b then readFileHost? r else some (fileUrl (.name []) s)
  | _ => some (fileUrl (.name []) s)

/-- What follows the colon of an address of an unknown scheme. -/
def readOther? (scheme s : List Char) : Option Url :=
  match s with
  | '/' :: '/' :: r => readAuthority? scheme .other r
  | '/' :: r =>
    let (path, s) := readPath .other [] r
    some (withTail .other ⟨scheme, none, .segments path, none, none⟩ s)
  | _ =>
    let text := s.takeWhile fun c => c != '?' && c != '#'
    some (withTail .other ⟨scheme, none, .plain (escape (fun _ => false) text), none, none⟩
      (s.drop text.length))

def dropSlashes (s : List Char) : List Char := s.dropWhile fun c => c == '/' || c == '\\'

def readScheme? (scheme s : List Char) : Option Url :=
  match kindOf scheme with
  | .file => readFile? s
  | .other => readOther? scheme s
  | kind => readAuthority? scheme kind (dropSlashes s)

/-- The address that a text is by itself. -/
def parse? (s : List Char) : Option Url := do
  let (scheme, rest) ← cutScheme? (cleanse s)
  readScheme? scheme rest

def Path.folder : Path → List (List Char)
  | .segments parts => parts.dropLast
  | .plain _ => []

/-- The address that a text without a scheme is on a page. Behind two slashes or more stands a
host; the host may not be empty, so that after `//` no further slash is passed over. -/
def readRelative? (page : Url) (s : List Char) : Option Url :=
  let kind := kindOf page.scheme
  let from_ (done : List (List Char)) (s : List Char) : Url :=
    let (path, tail) := readPath kind done s
    withTail kind { page with path := .segments path } tail
  match s with
  | [] => some { page with fragment := none }
  | '#' :: _ => some { page with fragment := readFragment s }
  | '?' :: _ => some (withTail kind page s)
  | '/' :: '/' :: r => readAuthority? page.scheme kind r
  | a :: b :: r =>
    if isSlash kind a then
      if isSlash kind b then readAuthority? page.scheme kind (dropSlashes r)
      else some (from_ [] (b :: r))
    else some (from_ page.path.folder.reverse s)
  | [a] => some (if isSlash kind a then from_ [] [] else from_ page.path.folder.reverse [a])

/-- The address that a text names on a page of the web. A scheme equal to that of the page may
stand before a relative text. -/
def join? (page : Url) (s : List Char) : Option Url :=
  let s := cleanse s
  match cutScheme? s with
  | none => readRelative? page s
  | some (scheme, rest) =>
    let slashes := rest.length - (dropSlashes rest).length
    if scheme = page.scheme && slashes < 2 then readRelative? page rest
    else readScheme? scheme rest

end Catalog.Url
