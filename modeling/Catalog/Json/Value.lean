import Catalog.Json.Binary64

/-! # JSON values

Integers of 64 bits are exact, all other numbers are binary64. An object that was read has its
members in ascending order of their names, each name once.
-/

namespace Catalog.Json

inductive Number where
  | int (n : Int)
  | float (x : Binary64)
  deriving DecidableEq, Repr, Inhabited

inductive Value where
  | null
  | bool (b : Bool)
  | number (n : Number)
  | string (s : String)
  | array (items : List Value)
  | object (members : List (String × Value))
  deriving Repr, Inhabited

/-- Puts a member in its place by name; an older one of the same name goes. -/
def insertMember {α : Type} (name : String) (value : α) :
    List (String × α) → List (String × α)
  | [] => [(name, value)]
  | (n, v) :: rest =>
    if name < n then (name, value) :: (n, v) :: rest
    else if name = n then (name, value) :: rest
    else (n, v) :: insertMember name value rest

/-- Members in order of name; of equal names the last one stays. -/
def sortMembers {α : Type} (members : List (String × α)) : List (String × α) :=
  members.foldl (fun acc m => insertMember m.1 m.2 acc) []

/-- Every name comes before the names behind it. -/
def Ascending {α : Type} (members : List (String × α)) : Prop :=
  members.Pairwise fun m n => m.1 < n.1

instance {α : Type} (members : List (String × α)) : Decidable (Ascending members) :=
  inferInstanceAs (Decidable (members.Pairwise fun m n => m.1 < n.1))

theorem mem_insertMember {α : Type} {name : String} {value : α} {m : String × α}
    {members : List (String × α)} (h : m ∈ insertMember name value members) :
    m = (name, value) ∨ m ∈ members := by
  induction members with
  | nil => exact Or.inl (List.mem_singleton.mp h)
  | cons head rest ih =>
    obtain ⟨n, v⟩ := head
    unfold insertMember at h
    split at h
    · exact List.mem_cons.mp h
    · split at h
      · exact (List.mem_cons.mp h).imp_right (List.mem_cons_of_mem _)
      · rcases List.mem_cons.mp h with rfl | h
        · exact Or.inr List.mem_cons_self
        · exact (ih h).imp_right (List.mem_cons_of_mem _)

theorem Ascending.insertMember {α : Type} {members : List (String × α)} (h : Ascending members)
    (name : String) (value : α) : Ascending (insertMember name value members) := by
  induction members with
  | nil => exact List.pairwise_singleton _ _
  | cons head rest ih =>
    obtain ⟨n, v⟩ := head
    obtain ⟨hn, hr⟩ := List.pairwise_cons.mp h
    unfold Json.insertMember
    split
    · rename_i hlt
      refine List.pairwise_cons.mpr ⟨fun m hm => ?_, h⟩
      rcases List.mem_cons.mp hm with rfl | hm
      · exact hlt
      · exact String.lt_trans hlt (hn m hm)
    · rename_i hge
      split
      · rename_i heq
        exact List.pairwise_cons.mpr ⟨fun m hm => heq ▸ hn m hm, hr⟩
      · rename_i hne
        refine List.pairwise_cons.mpr ⟨fun m hm => ?_, ih hr⟩
        rcases mem_insertMember hm with rfl | hm
        · exact Decidable.byContradiction fun hlt =>
            hne (String.le_antisymm (String.not_lt.mp hlt) (String.not_lt.mp hge))
        · exact hn m hm

theorem insertMember_eq_append {α : Type} {name : String} {members : List (String × α)}
    (h : ∀ m ∈ members, m.1 < name) (value : α) :
    insertMember name value members = members ++ [(name, value)] := by
  induction members with
  | nil => rfl
  | cons m members ih =>
    obtain ⟨hm, hs⟩ := List.forall_mem_cons.mp h
    have hn : ¬name < m.1 := String.lt_asymm hm
    have hne : name ≠ m.1 := String.ne_of_lt hm |>.symm
    simp [insertMember, hn, hne, ih hs]

end Catalog.Json
