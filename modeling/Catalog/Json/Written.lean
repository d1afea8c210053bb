import Catalog.Json.Token

/-! # JSON texts as they are written

The tree of a text before its meaning is taken: members in their order with repeated names,
numerals by their digits. Only what is used of it has to have a value, so a part that is passed
over may be nested at any depth and hold any numeral.
-/

namespace Catalog.Json

inductive Written where
  | null
  | bool (b : Bool)
  | number (n : Numeral)
  | string (s : Option (List Char))
  | array (items : List Written)
  | object (members : List (Option (List Char) × Written))
  deriving Repr, Inhabited

/-- A container that is open, its parts last one first. -/
inductive Container where
  | array (items : List Written)
  | object (members : List (Option (List Char) × Written)) (name : Option (List Char))

inductive Expected where
  /-- A value, or the end of an array that has no item yet. -/
  | value (mayClose : Bool)
  | name (members : List (Option (List Char) × Written)) (mayClose : Bool)
  | colon (members : List (Option (List Char) × Written)) (name : Option (List Char))
  /-- A separator or the end of the container around a complete value. -/
  | separator (v : Written)

structure Progress where
  open_ : List Container := []
  expected : Expected := .value false

namespace Progress

/-- A sign, word, numeral or string where a value is expected. -/
def start (open_ : List Container) : Token → Option Progress
  | .null => some ⟨open_, .separator .null⟩
  | .bool b => some ⟨open_, .separator (.bool b)⟩
  | .number n => some ⟨open_, .separator (.number n)⟩
  | .string s => some ⟨open_, .separator (.string s)⟩
  | .openBracket => some ⟨.array [] :: open_, .value true⟩
  | .openBrace => some ⟨open_, .name [] true⟩
  | _ => none

def step (p : Progress) (t : Token) : Option Progress :=
  match p.expected with
  | .value mayClose =>
    match p.open_, t with
    | .array [] :: below, .closeBracket =>
      if mayClose then some ⟨below, .separator (.array [])⟩ else none
    | open_, t => start open_ t
  | .name members mayClose =>
    match t with
    | .string s => some ⟨p.open_, .colon members s⟩
    | .closeBrace =>
      if mayClose then some ⟨p.open_, .separator (.object members.reverse)⟩ else none
    | _ => none
  | .colon members name =>
    match t with
    | .colon => some ⟨.object members name :: p.open_, .value false⟩
    | _ => none
  | .separator v =>
    match p.open_, t with
    | .array items :: below, .comma => some ⟨.array (v :: items) :: below, .value false⟩
    | .array items :: below, .closeBracket =>
      some ⟨below, .separator (.array (v :: items).reverse)⟩
    | .object members name :: below, .comma => some ⟨below, .name ((name, v) :: members) false⟩
    | .object members name :: below, .closeBrace =>
      some ⟨below, .separator (.object ((name, v) :: members).reverse)⟩
    | _, _ => none

def finish (p : Progress) : Option Written :=
  match p.open_, p.expected with
  | [], .separator v => some v
  | _, _ => none

end Progress

/-- Reads tokens until the text ends; every token takes a character, so `fuel` suffices if it is
larger than the length of the text. -/
def readTokens : Nat → Progress → List Char → Option Written
  | 0, _, _ => none
  | fuel + 1, p, s =>
    match s.dropWhile isSpace with
    | [] => p.finish
    | c :: r =>
      match Token.scan fuel (c :: r) with
      | none => none
      | some (t, rest) =>
        match p.step t with
        | none => none
        | some p => readTokens fuel p rest

/-- The tree of a text that is well formed from end to end. -/
def Written.parse? (s : List Char) : Option Written := readTokens (s.length + 1) {} s

namespace Written

mutual

/-- How deep arrays and objects are nested. -/
def depth : Written → Nat
  | .array items => depthItems items + 1
  | .object members => depthMembers members + 1
  | _ => 0

def depthItems : List Written → Nat
  | [] => 0
  | v :: rest => max v.depth (depthItems rest)

def depthMembers : List (Option (List Char) × Written) → Nat
  | [] => 0
  | (_, v) :: rest => max v.depth (depthMembers rest)

end

mutual

/-- The value of a tree of any depth; of equal names the last one counts. -/
def value? : Written → Option Value
  | .null => some .null
  | .bool b => some (.bool b)
  | .number n => n.toNumber?.map .number
  | .string s => s.map fun s => .string (String.ofList s)
  | .array items => (itemValues? items).map .array
  | .object members => (memberValues? members).map fun ms => .object (sortMembers ms)

def itemValues? : List Written → Option (List Value)
  | [] => some []
  | v :: rest =>
    match v.value?, itemValues? rest with
    | some v, some rest => some (v :: rest)
    | _, _ => none

def memberValues? : List (Option (List Char) × Written) → Option (List (String × Value))
  | [] => some []
  | (name, v) :: rest =>
    match name, v.value?, memberValues? rest with
    | some name, some v, some rest => some ((String.ofList name, v) :: rest)
    | _, _, _ => none

end

def depthLimit : Nat := 127

def toValue? (w : Written) : Option Value :=
  if depthLimit < w.depth then none else w.value?

end Written

/-- Reads a JSON value. -/
def Value.parse? (s : List Char) : Option Value :=
  (Written.parse? s).bind Written.toValue?

end Catalog.Json
