import Catalog.Text.Cut
import Catalog.Markup.Entity

/-! # Tokens

A document is read as a sequence of tokens. Inside some elements, as scripts and titles, markup is
not recognized until the end tag of the element, so that what has been opened decides how the text
is cut.
-/

namespace Catalog.Markup

structure Doctype where
  name : Option (List Char)
  publicId : Option (List Char)
  systemId : Option (List Char)
  /-- Whether the declaration is broken. -/
  broken : Bool

inductive Token where
  | doctype (d : Doctype)
  /-- Attributes in order, the first of each name. -/
  | start (name : String) (attributes : List (String × String)) (selfClosing : Bool)
  | finish (name : String)
  | comment (text : String)
  /-- Characters, none of which is U+0000. -/
  | text (chars : List Char)
  | null
  | eof

/-- How text is cut into tokens. -/
inductive Lexing where
  | data
  /-- Character references only, up to the end tag. -/
  | escapable (name : String)
  /-- Characters only, up to the end tag. -/
  | raw (name : String)
  /-- As raw, but comments may hide an end tag. -/
  | script
  /-- Characters only, up to the end of the document. -/
  | plain
  deriving DecidableEq, Repr

namespace Lexer

open Text (cutAt? dropStartAnyCase?)

def isSpace (c : Char) : Bool :=
  c == ' ' || c == '\n' || c == '\t' || c == '\x0c' || c == '\r'

/-- Line ends are single line feeds. A byte order mark in front is no part of the document. -/
def normalizeLines : List Char → List Char
  | '\r' :: '\n' :: r => '\n' :: normalizeLines r
  | '\r' :: r => '\n' :: normalizeLines r
  | c :: r => c :: normalizeLines r
  | [] => []

def dropMark : List Char → List Char
  | '\uFEFF' :: r => r
  | s => s

def noNull (c : Char) : Char := if c == '\x00' then '\uFFFD' else c

/-- The characters that numbers from 0x80 to 0x9F stand for. -/
def westernCodes : List Nat :=
  [0x20AC, 0x81, 0x201A, 0x0192, 0x201E, 0x2026, 0x2020, 0x2021, 0x02C6, 0x2030, 0x0160, 0x2039,
    0x0152, 0x8D, 0x017D, 0x8F, 0x90, 0x2018, 0x2019, 0x201C, 0x201D, 0x2022, 0x2013, 0x2014,
    0x02DC, 0x2122, 0x0161, 0x203A, 0x0153, 0x9D, 0x017E, 0x0178]

def charOfNumber (n : Nat) : Char :=
  if n = 0 || !n.isValidChar then '\uFFFD'
  else if 0x80 ≤ n && n < 0xA0 then Char.ofNat (westernCodes.getD (n - 0x80) n)
  else Char.ofNat n

def hexValue (c : Char) : Nat :=
  if c.isDigit then c.toNat - 0x30 else c.toLower.toNat - 0x57

def isHexDigit (c : Char) : Bool :=
  c.isDigit || ('a' ≤ c.toLower && c.toLower ≤ 'f')

/-- What follows `&#`: a number and perhaps a semicolon. -/
def number? (s : List Char) : Option (Char × List Char) :=
  let read (base : Nat) (isDigit : Char → Bool) (s : List Char) : Option (Char × List Char) :=
    let digits := s.takeWhile isDigit
    if digits.isEmpty then none
    else
      let n := digits.foldl (fun n c => min 0x110000 (base * n + hexValue c)) 0
      match s.drop digits.length with
      | ';' :: r => some (charOfNumber n, r)
      | r => some (charOfNumber n, r)
  match s with
  | 'x' :: r => read 16 isHexDigit r
  | 'X' :: r => read 16 isHexDigit r
  | _ => read 10 Char.isDigit s

/-- What follows `&`, if it is a reference. In the value of an attribute a name without its
semicolon is none if the text goes on with a letter, a digit or an equals sign. -/
def reference? (inAttribute : Bool) (s : List Char) : Option (List Char × List Char) :=
  match s with
  | '#' :: r => (number? r).map fun (c, r) => ([c], r)
  | _ =>
    match Entity.longest? s with
    | none => none
    | some found =>
      let goesOn := found.rest.head?.elim false fun c => c == '=' || c.isAlphanum
      if inAttribute && found.name.getLast? != some ';' && goesOn then none
      else some (found.chars, found.rest)

/-- Resolves the references of a text. The count bounds the steps. -/
def resolve (inAttribute : Bool) : Nat → List Char → List Char
  | 0, s => s
  | _, [] => []
  | n + 1, '&' :: r =>
    match reference? inAttribute r with
    | some (chars, rest) => chars ++ resolve inAttribute n rest
    | none => '&' :: resolve inAttribute n r
  | n + 1, c :: r => c :: resolve inAttribute n r

/-- Up to the end of a name of a tag. -/
def tagName (s : List Char) : List Char × List Char :=
  let name := s.takeWhile fun c => !isSpace c && c != '/' && c != '>'
  (name.map fun c => noNull c.toLower, s.drop name.length)

def attributeName (s : List Char) : List Char × List Char :=
  let name := match s with
    | '=' :: r => '=' :: r.takeWhile fun c => !isSpace c && c != '/' && c != '>' && c != '='
    | _ => s.takeWhile fun c => !isSpace c && c != '/' && c != '>' && c != '='
  (name.map fun c => noNull c.toLower, s.drop name.length)

/-- A value and what follows it; none if the document ends within quotes. -/
def attributeValue? (s : List Char) : Option (List Char × List Char) :=
  let finish (value rest : List Char) : List Char × List Char :=
    (resolve true value.length (value.map noNull), rest)
  let quoted (mark : Char) (r : List Char) : Option (List Char × List Char) :=
    let value := r.takeWhile (· != mark)
    match r.drop value.length with
    | _ :: rest => some (finish value rest)
    | [] => none
  match s with
  | '"' :: r => quoted '"' r
  | '\'' :: r => quoted '\'' r
  | '>' :: _ => some ([], s)
  | _ =>
    let value := s.takeWhile fun c => !isSpace c && c != '>'
    some (finish value (s.drop value.length))

structure TagEnd where
  attributes : List (String × String)
  selfClosing : Bool
  rest : List Char

/-- What follows the name of a tag, up to `>`; none if the document ends before. The count bounds
the steps. -/
def tagEnd? (seen : List (String × String)) : Nat → List Char → Option TagEnd
  | 0, _ => none
  | n + 1, s =>
    match s with
    | [] => none
    | '>' :: r => some ⟨seen.reverse, false, r⟩
    | '/' :: '>' :: r => some ⟨seen.reverse, true, r⟩
    | c :: r =>
      if isSpace c || c == '/' then tagEnd? seen n r
      else
        let (name, rest) := attributeName s
        let name := String.ofList name
        let add (value : List Char) : List (String × String) :=
          if seen.any (·.1 == name) then seen else (name, String.ofList value) :: seen
        match rest.dropWhile isSpace with
        | '=' :: r =>
          match attributeValue? (r.dropWhile isSpace) with
          | some (value, r) => tagEnd? (add value) n r
          | none => none
        | r => tagEnd? (add []) n r

def comment (s : List Char) : List Char × List Char :=
  match s with
  | '>' :: r => ([], r)
  | '-' :: '>' :: r => ([], r)
  | _ => go [] s
where
  /-- `back` holds the text so far, the last character first. -/
  go (back : List Char) : List Char → List Char × List Char
    | '-' :: '-' :: '>' :: r => (back.reverse, r)
    | '-' :: '-' :: '!' :: '>' :: r => (back.reverse, r)
    | ['-', '-', '!'] => (back.reverse, [])
    | ['-', '-'] => (back.reverse, [])
    | ['-'] => (back.reverse, [])
    | c :: r => go (noNull c :: back) r
    | [] => (back.reverse, [])

def bogusComment (s : List Char) : Token × List Char :=
  let text := s.takeWhile (· != '>')
  (.comment (String.ofList (text.map noNull)), s.drop (text.length + 1))

/-- A quoted identifier and what follows it. An identifier that is broken off by `>` or by the end
of the document is kept as far as it goes. -/
def quotedId (mark : Char) (s : List Char) : List Char × Bool × List Char :=
  let id := s.takeWhile fun c => c != mark && c != '>'
  match s.drop id.length with
  | c :: r => if c == mark then (id.map noNull, false, r) else (id.map noNull, true, c :: r)
  | [] => (id.map noNull, true, [])

/-- Everything up to and with the next `>` is passed over. -/
def passDeclaration (s : List Char) : List Char := (s.dropWhile (· != '>')).drop 1

/-- The declaration up to its end; anything before `>` makes it broken if `strict`. -/
def endDoctype (d : Doctype) (strict : Bool) (s : List Char) : Token × List Char :=
  match s.dropWhile isSpace with
  | '>' :: r => (.doctype d, r)
  | [] => (.doctype { d with broken := true }, [])
  | r => (.doctype { d with broken := d.broken || strict }, passDeclaration r)

def systemPart (d : Doctype) (optional : Bool) (s : List Char) : Token × List Char :=
  let read (mark : Char) (r : List Char) : Token × List Char :=
    let (id, brokenOff, rest) := quotedId mark r
    let d := { d with systemId := some id, broken := d.broken || brokenOff }
    if brokenOff then (.doctype d, rest.drop 1) else endDoctype d false rest
  match s.dropWhile isSpace with
  | '"' :: r => read '"' r
  | '\'' :: r => read '\'' r
  | '>' :: r => (.doctype { d with broken := d.broken || !optional }, r)
  | r => (.doctype { d with broken := true }, passDeclaration r)

def publicPart (d : Doctype) (s : List Char) : Token × List Char :=
  let read (mark : Char) (r : List Char) : Token × List Char :=
    let (id, brokenOff, rest) := quotedId mark r
    let d := { d with publicId := some id, broken := d.broken || brokenOff }
    if brokenOff then (.doctype d, rest.drop 1) else systemPart d true rest
  match s.dropWhile isSpace with
  | '"' :: r => read '"' r
  | '\'' :: r => read '\'' r
  | r => (.doctype { d with broken := true }, passDeclaration r)

def doctype (s : List Char) : Token × List Char :=
  let s := s.dropWhile isSpace
  let name := s.takeWhile fun c => !isSpace c && c != '>'
  let rest := (s.drop name.length).dropWhile isSpace
  if name.isEmpty then (.doctype ⟨none, none, none, true⟩, rest.drop 1)
  else
    let d : Doctype := ⟨some (name.map fun c => noNull c.toLower), none, none, false⟩
    match dropStartAnyCase? "public".toList rest with
    | some r => publicPart d r
    | none =>
      match dropStartAnyCase? "system".toList rest with
      | some r => systemPart d false r
      | none => endDoctype d true rest

/-- What follows `<!`. Sections of plain characters are read in foreign vocabularies only. -/
def declaration (foreign : Bool) (s : List Char) : Token × List Char :=
  match s with
  | '-' :: '-' :: r =>
    let (text, rest) := comment r
    (.comment (String.ofList text), rest)
  | _ =>
    match dropStartAnyCase? "doctype".toList s with
    | some r => doctype r
    | none =>
      match ("[CDATA[".toList).isPrefixOf? s with
      | some r =>
        if foreign then
          let (text, rest) := (cutAt? "]]>".toList r).getD (r, [])
          (.text (text.map noNull), rest)
        else bogusComment s
      | none => bogusComment s

def endsTag (name : String) (s : List Char) : Bool :=
  match dropStartAnyCase? name.toList s with
  | some (c :: _) => isSpace c || c == '/' || c == '>'
  | _ => false

def isEndTag (name : String) : List Char → Bool
  | '<' :: '/' :: r => endsTag name r
  | _ => false

def upToEnd (name : String) : List Char → List Char
  | [] => []
  | c :: r => if isEndTag name (c :: r) then [] else c :: upToEnd name r

/-- Where in a script one is. The numbers count hyphens just passed, up to two; `letters` are those
behind `<` or `</`, the last one first. -/
inductive ScriptPart where
  | code
  | comment (hyphens : Nat)
  | commentTag (letters : List Char)
  | nested (hyphens : Nat)
  | nestedTag (letters : List Char)

def ScriptPart.inComment (hyphens : Nat) (c : Char) : ScriptPart :=
  if c == '-' then .comment (min 2 (hyphens + 1))
  else if c == '>' && hyphens = 2 then .code
  else .comment 0

def ScriptPart.inNested (hyphens : Nat) (c : Char) : ScriptPart :=
  if c == '-' then .nested (min 2 (hyphens + 1))
  else if c == '>' && hyphens = 2 then .code
  else .nested 0

def endsLetters (c : Char) : Bool := isSpace c || c == '/' || c == '>'

/-- The text of a script. Within a comment the tags of a script nest, so that an end tag there may
belong to an inner one. -/
def scriptText (p : ScriptPart) : List Char → List Char
  | [] => []
  | c :: r =>
    match p with
    | .code =>
      if isEndTag "script" (c :: r) then []
      else if ("<!--".toList).isPrefixOf (c :: r) then c :: opening 3 r
      else c :: scriptText .code r
    | .comment hyphens =>
      if isEndTag "script" (c :: r) then []
      else if c == '<' && r.head?.elim false Char.isAlpha then c :: scriptText (.commentTag []) r
      else c :: scriptText (.inComment hyphens c) r
    | .commentTag letters =>
      if c.isAlpha then c :: scriptText (.commentTag (c.toLower :: letters)) r
      else if endsLetters c && letters == "tpircs".toList then c :: scriptText (.nested 0) r
      else if isEndTag "script" (c :: r) then []
      else if c == '<' && r.head?.elim false Char.isAlpha then c :: scriptText (.commentTag []) r
      else if endsLetters c then c :: scriptText (.comment 0) r
      else c :: scriptText (.inComment 0 c) r
    | .nested hyphens =>
      if ("</".toList).isPrefixOf (c :: r) then c :: slash r
      else c :: scriptText (.inNested hyphens c) r
    | .nestedTag letters =>
      if c.isAlpha then c :: scriptText (.nestedTag (c.toLower :: letters)) r
      else if endsLetters c && letters == "tpircs".toList then c :: scriptText (.comment 0) r
      else if ("</".toList).isPrefixOf (c :: r) then c :: slash r
      else if endsLetters c then c :: scriptText (.nested 0) r
      else c :: scriptText (.inNested 0 c) r
where
  /-- The rest of `<!--`. -/
  opening : Nat → List Char → List Char
    | 0, r => scriptText (.comment 2) r
    | n + 1, c :: r => c :: opening n r
    | _, [] => []
  /-- The slash of `</`. -/
  slash : List Char → List Char
    | c :: r => c :: scriptText (.nestedTag []) r
    | [] => []

/-- A tag that starts behind `<`, or an end tag behind `</`. A tag that the document breaks off is
dropped with all that follows. -/
def tag (isEnd : Bool) (s : List Char) : Token × List Char :=
  let (name, rest) := tagName s
  match tagEnd? [] (rest.length + 1) rest with
  | none => (.eof, [])
  | some e =>
    let name := String.ofList name
    (if isEnd then .finish name else .start name e.attributes e.selfClosing, e.rest)

/-- Characters that start nothing. -/
def plainText (s : List Char) : List Char := s.takeWhile fun c => c != '<' && c != '&' && c != '\x00'

def nextData (foreign : Bool) (s : List Char) : Token × List Char :=
  match s with
  | [] => (.eof, [])
  | '\x00' :: r => (.null, r)
  | '&' :: r =>
    match reference? false r with
    | some (chars, rest) => (.text chars, rest)
    | none => (.text ['&'], r)
  | ['<', '/'] => (.text ['<', '/'], [])
  | '<' :: '/' :: '>' :: r => (.text [], r)
  | '<' :: '/' :: c :: r => if c.isAlpha then tag true (c :: r) else bogusComment (c :: r)
  | '<' :: '!' :: r => declaration foreign r
  | '<' :: '?' :: r => bogusComment ('?' :: r)
  | '<' :: c :: r => if c.isAlpha then tag false (c :: r) else (.text ['<'], c :: r)
  | ['<'] => (.text ['<'], [])
  | c :: r =>
    let more := plainText r
    (.text (c :: more), r.drop more.length)

def next (mode : Lexing) (foreign : Bool) (s : List Char) : Token × List Char :=
  match mode, s with
  | _, [] => (.eof, [])
  | .data, _ => nextData foreign s
  | .plain, _ => (.text (s.map noNull), [])
  | .raw name, _ =>
    let text := upToEnd name s
    if text.isEmpty then tag true (s.drop 2) else (.text (text.map noNull), s.drop text.length)
  | .escapable name, _ =>
    let text := upToEnd name s
    if text.isEmpty then tag true (s.drop 2)
    else (.text (resolve false text.length (text.map noNull)), s.drop text.length)
  | .script, _ =>
    let text := scriptText .code s
    if text.isEmpty then tag true (s.drop 2) else (.text (text.map noNull), s.drop text.length)

end Lexer

end Catalog.Markup
