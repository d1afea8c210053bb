import Catalog.Json.Value

/-! # Variables

What rules remember while a page is read: texts under keys, in ascending order of the keys.
-/

namespace Catalog

structure Variables where
  entries : List (String × String)
  ascending : Json.Ascending entries
  deriving DecidableEq, Repr

namespace Variables

def empty : Variables := ⟨[], List.Pairwise.nil⟩

instance : Inhabited Variables := ⟨empty⟩

def get? (v : Variables) (key : String) : Option String := v.entries.lookup key

def put (v : Variables) (key value : String) : Variables :=
  ⟨Json.insertMember key value v.entries, v.ascending.insertMember key value⟩

def putAll (v : Variables) (entries : List (String × String)) : Variables :=
  entries.foldl (fun v e => v.put e.1 e.2) v

theorem putAll_append (v : Variables) (first second : List (String × String)) :
    v.putAll (first ++ second) = (v.putAll first).putAll second := List.foldl_append

def ofList (entries : List (String × String)) : Variables := empty.putAll entries

theorem putAll_entries {v : Variables} {entries : List (String × String)}
    (h : Json.Ascending (v.entries ++ entries)) :
    (v.putAll entries).entries = v.entries ++ entries := by
  induction entries generalizing v with
  | nil => exact (List.append_nil _).symm
  | cons e entries ih =>
    have hp : (v.put e.1 e.2).entries = v.entries ++ [e] :=
      Json.insertMember_eq_append (fun m hm =>
        (List.pairwise_append.mp h).2.2 m hm e List.mem_cons_self) e.2
    have ha : v.entries ++ e :: entries = (v.put e.1 e.2).entries ++ entries := by
      rw [hp, List.append_assoc, List.singleton_append]
    rw [ha] at h ⊢
    exact ih h

theorem ofList_entries (v : Variables) : ofList v.entries = v := by
  have he : (ofList v.entries).entries = v.entries :=
    putAll_entries (by simpa [empty] using v.ascending)
  generalize ofList v.entries = u at he
  cases u
  cases v
  cases he
  rfl

def size (v : Variables) : Nat := v.entries.length

def isEmpty (v : Variables) : Bool := v.entries.isEmpty

/-- The key of a reference at the start of a text, `@get:` and the key in braces, and the rest. -/
def reference? (s : List Char) : Option (List Char × List Char) :=
  match ("@get:\x7b".toList).isPrefixOf? s with
  | none => none
  | some r =>
    let key := r.takeWhile fun c => c != '\x7b' && c != '\x7d'
    if key.isEmpty then none
    else
      match r.drop key.length with
      | '\x7d' :: rest => some (key, rest)
      | _ => none

/-- Replaces every reference by what its key stands for. What is put in is not read again. The
count bounds the steps. -/
def expandWith (value : String → String) : Nat → List Char → List Char
  | 0, s => s
  | _, [] => []
  | n + 1, c :: r =>
    match reference? (c :: r) with
    | some (key, rest) => (value (String.ofList key)).toList ++ expandWith value n rest
    | none => c :: expandWith value n r

/-- Replaces references in a text, each one by a text or by nothing. -/
def expand (value : String → Option String) (text : String) : String :=
  String.ofList (expandWith (fun key => (value key).getD "") text.length text.toList)

/-- Replaces references by the texts of the variables; keys without one stand for nothing. -/
def substitute (v : Variables) (text : String) : String := expand v.get? text

end Variables

end Catalog
