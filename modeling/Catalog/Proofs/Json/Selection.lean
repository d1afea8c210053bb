import Catalog.Proofs.Json.Path
import Catalog.Proofs.Json.Place

/-! # What paths select

A path selects with its last steps from each value that its first steps select. What a single step
selects is said by where it stands: a member by its name, an item by its number, which may count
from the end, and the members of a name at any depth by their places, each once and in order.
-/

namespace Catalog.Json

variable {v w : Value} {p q : Place} {name : String}

namespace Path

/-- From several values a path selects what it selects from each of them. -/
theorem selectAll_eq_flatMap (segments : List Segment) (values : List Value) :
    selectAll segments values = values.flatMap fun v => selectAll segments [v] := by
  induction segments generalizing values with
  | nil => simp [selectAll]
  | cons s rest ih =>
    calc selectAll rest (values.flatMap s.select)
      _ = (values.flatMap s.select).flatMap fun w => selectAll rest [w] := ih _
      _ = values.flatMap fun v => (s.select v).flatMap fun w => selectAll rest [w] :=
        List.flatMap_assoc
      _ = values.flatMap fun v => selectAll (s :: rest) [v] := by
        refine List.flatMap_congr fun v _ => ?_
        rw [← ih, selectAll, List.flatMap_singleton]

theorem select_append (a b : List Segment) (v : Value) :
    select ⟨a ++ b⟩ v = (select ⟨a⟩ v).flatMap (select ⟨b⟩) := by
  rw [select, selectAll_append, selectAll_eq_flatMap]
  rfl

theorem select_singleton (s : Segment) (v : Value) : select ⟨[s]⟩ v = s.select v := by
  rw [select, selectAll, selectAll, List.flatMap_singleton]

end Path

namespace Segment

/-- The place among so many items that a number stands for; a negative one counts from the end. -/
def place (count : Nat) (i : Int64) : Int := if i.toInt < 0 then count + i.toInt else i.toInt

/-- The same place as a sum of 64 bits. A count beyond these is taken for the greatest number. -/
def wordPlace (count : Nat) (i : Int64) : Int64 :=
  if i < 0 then .ofNat (min count 0x7FFFFFFFFFFFFFFF) + i else i

theorem toInt_wordPlace (count : Nat) (i : Int64) :
    (wordPlace count i).toInt = place (min count 0x7FFFFFFFFFFFFFFF) i := by
  have hcount : (Int64.ofNat (min count 0x7FFFFFFFFFFFFFFF)).toInt =
      (min count 0x7FFFFFFFFFFFFFFF : Nat) :=
    Int64.toInt_ofNat_of_lt (by omega)
  have hlow := i.le_toInt
  simp only [wordPlace, place, Int64.lt_iff_toInt_lt, Int64.toInt_zero]
  split
  · rw [Int64.toInt_add, hcount, Int.bmod_eq_of_le (by omega) (by omega)]
  · rfl

variable {i : Int64} {items : List Value}

theorem select_index (i : Int64) (items : List Value) :
    (index i).select (.array items) =
      if place items.length i < 0 then [] else items[(place items.length i).toNat]?.toList := by
  have hplace : (if i < 0 then (items.length : Int) + i.toInt else i.toInt) =
      place items.length i := by
    simp only [place, Int64.lt_iff_toInt_lt, Int64.toInt_zero]
  simp only [select, hplace]

theorem select_item {j : Nat} (hj : j < items.length)
    (hi : i.toInt = j ∨ i.toInt < 0 ∧ items.length + i.toInt = j) :
    (index i).select (.array items) = [items[j]] := by
  have hplace : place items.length i = j := by
    unfold place
    split <;> omega
  rw [select_index, hplace, if_neg (by omega), Int.toNat_natCast, List.getElem?_eq_getElem hj,
    Option.toList_some]

theorem select_no_item (hi : i.toInt < -items.length ∨ items.length ≤ i.toInt) :
    (index i).select (.array items) = [] := by
  have hplace : place items.length i < 0 ∨ items.length ≤ place items.length i := by
    unfold place
    split <;> omega
  rw [select_index]
  split
  · rfl
  · rw [List.getElem?_eq_none (by omega), Option.toList_none]

theorem select_wildcard (v : Value) : wildcard.select v = v.parts.map Prod.snd := by
  cases v <;> simp [select, Value.parts, Function.comp_def]

end Segment

theorem pairwise_zipIdx {α : Type} (l : List α) : l.zipIdx.Pairwise fun x y => x.2 < y.2 := by
  rw [List.pairwise_iff_getElem]
  intro i j hi hj hij
  simpa using hij

def under (p : Place) (x : Place × Value) : Place × Value := (p ++ x.1, x.2)

/-- What is found is in the order of the document, and nothing is found twice. -/
def InOrder (found : List (Place × Value)) : Prop := found.Pairwise fun x y => x.1 < y.1

theorem InOrder.map_under {found : List (Place × Value)} (h : InOrder found) (p : Place) :
    InOrder (found.map (under p)) :=
  List.pairwise_map.mpr (h.imp fun hlt => List.append_left_lt hlt)

namespace Value

mutual

def locate (name : String) : Value → List (Place × Value)
  | .array items => locateItems name 0 items
  | .object members => locateMembers name 0 members
  | _ => []

def locateItems (name : String) : Nat → List Value → List (Place × Value)
  | _, [] => []
  | i, v :: rest => (v.locate name).map (under [i]) ++ locateItems name (i + 1) rest

def locateMembers (name : String) : Nat → List (String × Value) → List (Place × Value)
  | _, [] => []
  | i, (n, v) :: rest =>
    (if n = name then [([i], v)] else []) ++
      ((v.locate name).map (under [i]) ++ locateMembers name (i + 1) rest)

end

def locateIn (name : String) (x : (Option String × Value) × Nat) : List (Place × Value) :=
  (if x.1.1 = some name then [([x.2], x.1.2)] else []) ++ (x.1.2.locate name).map (under [x.2])

theorem locate_eq (name : String) (v : Value) :
    v.locate name = v.parts.zipIdx.flatMap (locateIn name) := by
  have hitems (i : Nat) (items : List Value) : locateItems name i items =
      ((items.map fun w => (none, w)).zipIdx i).flatMap (locateIn name) := by
    induction items generalizing i with
    | nil => rfl
    | cons w items ih => simp [locateItems, locateIn, ih]
  have hmembers (i : Nat) (members : List (String × Value)) : locateMembers name i members =
      ((members.map fun m => (some m.1, m.2)).zipIdx i).flatMap (locateIn name) := by
    induction members generalizing i with
    | nil => rfl
    | cons m members ih => simp [locateMembers, locateIn, ih]
  cases v with
  | array items => exact hitems 0 items
  | object members => exact hmembers 0 members
  | _ => rfl

theorem descendants_eq (name : String) (v : Value) :
    v.descendants name = v.parts.flatMap fun m =>
      (if m.1 = some name then [m.2] else []) ++ m.2.descendants name := by
  have hitems (items : List Value) : itemDescendants name items =
      (items.map fun w => (none, w)).flatMap fun m : Option String × Value =>
        (if m.1 = some name then [m.2] else []) ++ m.2.descendants name := by
    induction items with
    | nil => rfl
    | cons w items ih => simp [itemDescendants, ih]
  have hmembers (members : List (String × Value)) : memberDescendants name members =
      (members.map fun m => (some m.1, m.2)).flatMap fun m : Option String × Value =>
        (if m.1 = some name then [m.2] else []) ++ m.2.descendants name := by
    induction members with
    | nil => rfl
    | cons m members ih => simp [memberDescendants, ih]
  cases v with
  | array items => exact hitems items
  | object members => exact hmembers members
  | _ => rfl

theorem values_locate (name : String) (v : Value) :
    (v.locate name).map Prod.snd = v.descendants name := by
  induction v using parts_induction with
  | step v ih =>
    rw [locate_eq, descendants_eq, List.map_flatMap]
    conv_rhs => rw [← List.zipIdx_map_fst 0 v.parts, List.flatMap_map]
    refine List.flatMap_congr fun x hx => ?_
    have hpart : x.1 ∈ v.parts := List.mem_of_getElem? (List.mem_zipIdx_iff_getElem?.mp hx)
    have hsnd : Prod.snd ∘ under [x.2] = (Prod.snd : Place × Value → Value) := rfl
    rw [locateIn, List.map_append, List.map_map, hsnd, ih x.1 hpart]
    split <;> rfl

theorem mem_locate : (p, w) ∈ v.locate name ↔
    ∃ q i u, p = q ++ [i] ∧ v.at? q = some u ∧ u.parts[i]? = some (some name, w) := by
  induction v using parts_induction generalizing p with
  | step v ih =>
    have hin {m : Option String × Value} {i : Nat} (hm : v.parts[i]? = some m) :
        (p, w) ∈ locateIn name (m, i) ↔ (p = [i] ∧ m = (some name, w)) ∨
          ∃ q j u, p = i :: (q ++ [j]) ∧ m.2.at? q = some u ∧
            u.parts[j]? = some (some name, w) := by
      rw [locateIn, List.mem_append, List.mem_map]
      refine or_congr ?_ ⟨?_, ?_⟩
      · obtain ⟨n, u⟩ := m
        by_cases hn : n = some name <;> simp [hn, eq_comm]
      · rintro ⟨⟨r, w⟩, hx, he⟩
        cases he
        obtain ⟨q, j, u, rfl, hq, hu⟩ := (ih m (List.mem_of_getElem? hm)).mp hx
        exact ⟨q, j, u, rfl, hq, hu⟩
      · rintro ⟨q, j, u, rfl, hq, hu⟩
        exact ⟨(q ++ [j], w), (ih m (List.mem_of_getElem? hm)).mpr ⟨q, j, u, rfl, hq, hu⟩, rfl⟩
    rw [locate_eq, List.mem_flatMap]
    constructor
    · rintro ⟨⟨m, i⟩, hx, h⟩
      have hm := List.mem_zipIdx_iff_getElem?.mp hx
      rcases (hin hm).mp h with ⟨rfl, rfl⟩ | ⟨q, j, u, rfl, hq, hu⟩
      · exact ⟨[], i, v, rfl, rfl, hm⟩
      · exact ⟨i :: q, j, u, rfl, at?_cons.mpr ⟨m, hm, hq⟩, hu⟩
    · rintro ⟨q, j, u, rfl, hq, hu⟩
      cases q with
      | nil =>
        cases hq
        exact ⟨((some name, w), j), List.mem_zipIdx_iff_getElem?.mpr hu,
          (hin hu).mpr (.inl ⟨rfl, rfl⟩)⟩
      | cons i q =>
        obtain ⟨m, hm, hq⟩ := at?_cons.mp hq
        exact ⟨(m, i), List.mem_zipIdx_iff_getElem?.mpr hm,
          (hin hm).mpr (.inr ⟨q, j, u, rfl, hq, hu⟩)⟩

theorem mem_places_locate : p ∈ (v.locate name).map Prod.fst ↔ v.NamedAt name p := by
  simp only [List.mem_map, Prod.exists, exists_and_right, exists_eq_right, mem_locate]
  exact ⟨fun ⟨w, q, i, u, h⟩ => ⟨q, i, u, w, h⟩, fun ⟨q, i, u, w, h⟩ => ⟨w, q, i, u, h⟩⟩

theorem at?_of_mem_locate {x : Place × Value} (h : x ∈ v.locate name) : v.at? x.1 = some x.2 := by
  obtain ⟨q, i, u, hp, hq, hu⟩ := mem_locate.mp h
  rw [hp, at?_append, hq, Option.bind_some, at?_cons]
  exact ⟨_, hu, rfl⟩

/-- Places are found in the order of the document, each once. -/
theorem locate_inOrder (name : String) (v : Value) : InOrder (v.locate name) := by
  induction v using parts_induction with
  | step v ih =>
    have hhead {x : (Option String × Value) × Nat} {y : Place × Value}
        (hy : y ∈ locateIn name x) : ∃ r, y.1 = x.2 :: r := by
      rw [locateIn, List.mem_append, List.mem_map] at hy
      rcases hy with hy | ⟨z, -, rfl⟩
      · split at hy
        · cases List.mem_singleton.mp hy
          exact ⟨[], rfl⟩
        · cases hy
      · exact ⟨z.1, rfl⟩
    rw [locate_eq, InOrder, List.pairwise_flatMap]
    refine ⟨fun x hx => ?_, (pairwise_zipIdx v.parts).imp fun hlt y hy z hz => ?_⟩
    · have hpart : x.1 ∈ v.parts := List.mem_of_getElem? (List.mem_zipIdx_iff_getElem?.mp hx)
      rw [locateIn, List.pairwise_append]
      refine ⟨?_, (ih x.1 hpart).map_under [x.2], fun y hy z hz => ?_⟩
      · split
        · exact List.pairwise_singleton _ _
        · exact .nil
      · -- the part itself comes before what is in it
        obtain ⟨⟨r, u⟩, hr, rfl⟩ := List.mem_map.mp hz
        obtain ⟨q, j, -, rfl, -⟩ := mem_locate.mp hr
        split at hy
        · cases List.mem_singleton.mp hy
          exact Place.lt_append _ (by simp)
        · cases hy
    -- places in different parts differ in their first number
    · obtain ⟨r, hr⟩ := hhead hy
      obtain ⟨t, ht⟩ := hhead hz
      rw [hr, ht]
      exact List.cons_lt_cons_iff.mpr (.inl hlt)

end Value

/-- A function selects from values as the steps of paths say. -/
structure Stepwise (select : List Segment → Value → List Value) : Prop where
  nil : ∀ v, select [] v = [v]
  append : ∀ a b v, select (a ++ b) v = (select a v).flatMap (select b)
  member : ∀ name members, select [.key name] (.object members) = (members.lookup name).toList
  no_member : ∀ name v, (∀ members, v ≠ .object members) → select [.key name] v = []
  item : ∀ (i : Int64) (items : List Value) (j : Nat) (_ : j < items.length),
    i.toInt = j ∨ i.toInt < 0 ∧ items.length + i.toInt = j →
      select [.index i] (.array items) = [items[j]]
  no_item : ∀ (i : Int64) (items : List Value),
    i.toInt < -items.length ∨ items.length ≤ i.toInt → select [.index i] (.array items) = []
  no_array : ∀ i v, (∀ items, v ≠ .array items) → select [.index i] v = []
  part : ∀ v, select [.wildcard] v = v.parts.map Prod.snd
  /-- The values stand at the places where a member of the name stands, in their order. -/
  named : ∀ name v, ∃ places : List Place, places.Pairwise (· < ·) ∧
    (∀ p, p ∈ places ↔ v.NamedAt name p) ∧
    (select [.descendant name] v).map some = places.map v.at?

/-- Paths select step by step. Where an item stands is found without leaving the range of 64
bits. -/
theorem select_stepwise :
    Stepwise (fun segments v => Path.select ⟨segments⟩ v) ∧
      (∀ count i, (Segment.wordPlace count i).toInt =
        Segment.place (min count 0x7FFFFFFFFFFFFFFF) i) ∧
      ∀ (i : Int64) (items : List Value), items.length < 0x8000000000000000 →
        Path.select ⟨[.index i]⟩ (.array items) =
          if Segment.wordPlace items.length i < 0 then []
          else items[(Segment.wordPlace items.length i).toInt.toNat]?.toList := by
  refine ⟨?_, Segment.toInt_wordPlace, fun i items h => ?_⟩
  · constructor
    case nil => exact fun v => rfl
    case append => exact Path.select_append
    all_goals simp only [Path.select_singleton]
    case member => exact fun name members => rfl
    case no_member =>
      intro name v h
      cases v with
      | object members => exact absurd rfl (h members)
      | _ => rfl
    case item => exact fun i items j hj hi => Segment.select_item hj hi
    case no_item => exact fun i items hi => Segment.select_no_item hi
    case no_array =>
      intro i v h
      cases v with
      | array items => exact absurd rfl (h items)
      | _ => rfl
    case part => exact Segment.select_wildcard
    case named =>
      intro name v
      refine ⟨(v.locate name).map Prod.fst, List.pairwise_map.mpr (v.locate_inOrder name),
        fun p => Value.mem_places_locate, ?_⟩
      rw [Segment.select, ← Value.values_locate, List.map_map, List.map_map]
      exact List.map_congr_left fun x hx => (Value.at?_of_mem_locate hx).symm
  · have hcount : min items.length 0x7FFFFFFFFFFFFFFF = items.length := by omega
    have hword := Segment.toInt_wordPlace items.length i
    rw [hcount] at hword
    simp only [Path.select_singleton, Segment.select_index, Int64.lt_iff_toInt_lt,
      Int64.toInt_zero, hword]

end Catalog.Json
