import Catalog.Json.Path
import Catalog.Json.Written

/-! # Places in a value

A place is the way from a value to a value in it: the number of a part, the number of a part of that
one, and so on. The order of places is the order of the document: a value comes before its parts,
and all that is in one part comes before the next part. Members that are named at any depth are
found in this order, each at one place.
-/

namespace Catalog.Json

abbrev Place := List Nat

theorem Place.lt_append (p : Place) {q : Place} (h : q ≠ []) : p < p ++ q := by
  obtain ⟨i, q, rfl⟩ := List.exists_cons_of_ne_nil h
  have h : p ++ [] < p ++ i :: q := List.append_left_lt (List.nil_lt_cons i q)
  simpa using h

theorem Place.append_lt_append {p q r : Place} : p ++ q < p ++ r ↔ q < r := by
  induction p with
  | nil => rfl
  | cons i p ih => simpa [List.cons_lt_cons_iff] using ih

namespace Value

def parts : Value → List (Option String × Value)
  | .array items => items.map fun w => (none, w)
  | .object members => members.map fun m => (some m.1, m.2)
  | _ => []

def at? (v : Value) : Place → Option Value
  | [] => some v
  | i :: p => v.parts[i]?.bind fun m => m.2.at? p

/-- A member of the name stands at the place. -/
def NamedAt (v : Value) (name : String) (p : Place) : Prop :=
  ∃ q i u w, p = q ++ [i] ∧ v.at? q = some u ∧ u.parts[i]? = some (some name, w)

/-- Every object in the value has its members in the order of their names. -/
def Ordered (v : Value) : Prop := ∀ p members, v.at? p = some (.object members) → Ascending members

variable {v w : Value} {p q : Place} {name : String} {i : Nat}

@[simp]
theorem at?_nil (v : Value) : v.at? [] = some v := rfl

theorem at?_cons : v.at? (i :: p) = some w ↔ ∃ m, v.parts[i]? = some m ∧ m.2.at? p = some w := by
  simp [at?, Option.bind_eq_some_iff]

theorem at?_append (v : Value) (p q : Place) : v.at? (p ++ q) = (v.at? p).bind (·.at? q) := by
  induction p generalizing v with
  | nil => rfl
  | cons i p ih =>
    rw [List.cons_append, at?, at?]
    cases v.parts[i]? with
    | none => rfl
    | some m => exact ih m.2

theorem sizeOf_lt_of_mem_parts {m : Option String × Value} (h : m ∈ v.parts) :
    sizeOf m.2 < sizeOf v := by
  cases v with
  | array items =>
    obtain ⟨w, hw, rfl⟩ := List.mem_map.mp h
    have := List.sizeOf_lt_of_mem hw
    simp only [array.sizeOf_spec]
    omega
  | object members =>
    obtain ⟨⟨n, w⟩, hw, rfl⟩ := List.mem_map.mp h
    have := List.sizeOf_lt_of_mem hw
    simp only [Prod.mk.sizeOf_spec, object.sizeOf_spec] at this ⊢
    omega
  | _ => cases h

/-- What holds of a value if it holds of its parts holds of every value. -/
@[elab_as_elim]
theorem parts_induction {motive : Value → Prop}
    (step : ∀ v, (∀ m ∈ v.parts, motive m.2) → motive v) (v : Value) : motive v :=
  step v fun m _ => parts_induction step m.2
termination_by sizeOf v
decreasing_by exact sizeOf_lt_of_mem_parts ‹_›

namespace Ordered

theorem of_at? (h : v.Ordered) (hp : v.at? p = some w) : w.Ordered := by
  intro q members hq
  refine h (p ++ q) members ?_
  rw [at?_append, hp, Option.bind_some, hq]

theorem members {members : List (String × Value)} (h : (Value.object members).Ordered) :
    Ascending members := h [] members rfl

theorem of_parts (hv : ∀ members, v = .object members → Ascending members)
    (h : ∀ m ∈ v.parts, m.2.Ordered) : v.Ordered := by
  intro p members hp
  cases p with
  | nil => exact hv members (Option.some.inj hp)
  | cons i p =>
    obtain ⟨m, hm, hp⟩ := at?_cons.mp hp
    exact h m (List.mem_of_getElem? hm) p members hp

theorem array {items : List Value} (h : ∀ w ∈ items, w.Ordered) : (Value.array items).Ordered :=
  of_parts nofun fun m hm => by
    obtain ⟨w, hw, rfl⟩ := List.mem_map.mp hm
    exact h w hw

theorem object {members : List (String × Value)} (ha : Ascending members)
    (h : ∀ m ∈ members, m.2.Ordered) : (Value.object members).Ordered :=
  of_parts (fun _ he => object.inj he ▸ ha) fun m hm => by
    obtain ⟨member, hmember, rfl⟩ := List.mem_map.mp hm
    exact h member hmember

theorem member (name : String) (h : w.Ordered) : (Value.object [(name, w)]).Ordered :=
  object (List.pairwise_singleton _ _) (by simpa using h)

theorem null : Value.null.Ordered := of_parts nofun nofun

theorem nulls (n : Nat) : ∀ w ∈ List.replicate n Value.null, w.Ordered :=
  List.forall_mem_replicate.mpr (.inr null)

end Ordered

end Value

theorem ascending_sortMembers {α : Type} (members : List (String × α)) :
    Ascending (sortMembers members) := by
  suffices h : ∀ acc : List (String × α), Ascending acc →
      Ascending (members.foldl (fun acc m => insertMember m.1 m.2 acc) acc) from h [] .nil
  induction members with
  | nil => exact fun _ h => h
  | cons m members ih => exact fun _ h => ih _ (h.insertMember m.1 m.2)

theorem mem_of_mem_sortMembers {α : Type} {members : List (String × α)} {m : String × α}
    (h : m ∈ sortMembers members) : m ∈ members := by
  suffices hs : ∀ acc : List (String × α),
      m ∈ members.foldl (fun acc m => insertMember m.1 m.2 acc) acc → m ∈ acc ∨ m ∈ members from
    (hs [] h).resolve_left List.not_mem_nil
  clear h
  induction members with
  | nil => exact fun _ h => .inl h
  | cons n members ih =>
    intro acc h
    rcases ih _ h with h | h
    · rcases mem_insertMember h with rfl | h
      · exact .inr List.mem_cons_self
      · exact .inl h
    · exact .inr (List.mem_cons_of_mem _ h)

namespace Written

mutual

theorem ordered_of_value? : ∀ (w : Written) {v : Value}, w.value? = some v → v.Ordered
  | .null, _, h => by cases h; exact .null
  | .bool b, _, h => by cases h; exact .of_parts nofun nofun
  | .number n, _, h => by
    obtain ⟨x, -, rfl⟩ := Option.map_eq_some_iff.mp h
    exact .of_parts nofun nofun
  | .string s, _, h => by
    obtain ⟨x, -, rfl⟩ := Option.map_eq_some_iff.mp h
    exact .of_parts nofun nofun
  | .array items, _, h => by
    obtain ⟨vs, hvs, rfl⟩ := Option.map_eq_some_iff.mp h
    exact .array (ordered_of_itemValues? items hvs)
  | .object members, _, h => by
    obtain ⟨ms, hms, rfl⟩ := Option.map_eq_some_iff.mp h
    exact .object (ascending_sortMembers ms) fun m hm =>
      ordered_of_memberValues? members hms m (mem_of_mem_sortMembers hm)

theorem ordered_of_itemValues? : ∀ (items : List Written) {vs : List Value},
    itemValues? items = some vs → ∀ v ∈ vs, v.Ordered
  | [], _, h => by cases h; exact nofun
  | w :: items, _, h => by
    unfold itemValues? at h
    split at h
    · next v vs hv hvs =>
      cases h
      exact List.forall_mem_cons.mpr ⟨ordered_of_value? w hv, ordered_of_itemValues? items hvs⟩
    · cases h

theorem ordered_of_memberValues? : ∀ (members : List (Option (List Char) × Written))
    {ms : List (String × Value)}, memberValues? members = some ms → ∀ m ∈ ms, m.2.Ordered
  | [], _, h => by cases h; exact nofun
  | (name, w) :: members, _, h => by
    unfold memberValues? at h
    split at h
    · next v ms hv hms =>
      cases h
      exact List.forall_mem_cons.mpr
        ⟨ordered_of_value? w hv, ordered_of_memberValues? members hms⟩
    · cases h

end

end Written

theorem Value.ordered_of_parse? {s : List Char} {v : Value} (h : Value.parse? s = some v) :
    v.Ordered := by
  obtain ⟨w, -, hw⟩ := Option.bind_eq_some_iff.mp h
  unfold Written.toValue? at hw
  split at hw
  · cases hw
  · exact w.ordered_of_value? hw

end Catalog.Json
