/-! # Percent escapes

A byte that may not stand for itself is written as `%` and two hexadecimal digits. Characters
outside ASCII are always escaped, byte by byte of their UTF-8 form.
-/

namespace Catalog.Url

def inFragment (c : Char) : Bool := c == ' ' || c == '"' || c == '<' || c == '>' || c == '`'

def inPath (c : Char) : Bool :=
  inFragment c || c == '#' || c == '?' || c == '\x7b' || c == '\x7d'

def inUserInfo (c : Char) : Bool :=
  inPath c || c == '/' || c == ':' || c == ';' || c == '=' || c == '@' || c == '[' ||
    c == '\\' || c == ']' || c == '^' || c == '|'

def inQuery (c : Char) : Bool := c == ' ' || c == '"' || c == '#' || c == '<' || c == '>'

/-- The query of an address of the web also escapes the apostrophe. -/
def inWebQuery (c : Char) : Bool := inQuery c || c == '\''

def hexDigit (n : Nat) : Char :=
  if n < 10 then Char.ofNat (0x30 + n) else Char.ofNat (0x41 + (n - 10))

def hexValue? (c : Char) : Option Nat :=
  if '0' ≤ c && c ≤ '9' then some (c.toNat - 0x30)
  else if 'a' ≤ c && c ≤ 'f' then some (c.toNat - 0x57)
  else if 'A' ≤ c && c ≤ 'F' then some (c.toNat - 0x37)
  else none

def escapeByte (b : UInt8) : List Char :=
  ['%', hexDigit (b.toNat / 16), hexDigit (b.toNat % 16)]

/-- Escapes controls, characters outside ASCII and those of a given class. -/
def escape (special : Char → Bool) (s : List Char) : List Char :=
  s.flatMap fun c =>
    if c.toNat < 0x20 || 0x7F ≤ c.toNat || special c then
      (String.utf8EncodeChar c).flatMap escapeByte
    else [c]

/-- The bytes of a text, escapes resolved. A `%` that starts no escape stands for itself. -/
def unescape : List Char → List UInt8
  | '%' :: h :: l :: r =>
    match hexValue? h, hexValue? l with
    | some h, some l => UInt8.ofNat (16 * h + l) :: unescape r
    | _, _ => 0x25 :: unescape (h :: l :: r)
  | c :: r => String.utf8EncodeChar c ++ unescape r
  | [] => []
termination_by s => s.length

end Catalog.Url
