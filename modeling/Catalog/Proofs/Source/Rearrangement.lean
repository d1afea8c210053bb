import Mathlib.Data.List.Forall2
import Mathlib.Data.List.Perm.Basic
import Catalog.Proofs.Json.Printing
import Catalog.Source.Json

/-! # Sources whose members are rearranged

A source is read from the members with the names of its fields. In which order they stand, and what
else stands among them, makes no difference, neither to the source nor to the records in it.
-/

namespace Catalog

open Json

namespace Json.Written

variable {names : List String} {name : String}
  {members members' kept foreign : List (Option (List Char) × Written)}
  {R : Option (List Char) → Written → Written → Prop}

def valuesAt (name : String) (members : List (Option (List Char) × Written)) : List Written :=
  (members.filter fun m => m.1 == some name.toList).map (·.2)

def Named (members : List (Option (List Char) × Written)) : Prop := ∀ m ∈ members, m.1.isSome

instance : Decidable (Named members) := inferInstanceAs (Decidable (∀ m ∈ members, _))

theorem memberNames?_of_named (h : Named members) : ∃ named, memberNames? members = some named ∧
    ∀ name, valuesOf name named = valuesAt name members := by
  induction members with
  | nil => exact ⟨[], rfl, fun _ => rfl⟩
  | cons m members ih =>
    obtain ⟨hm, hs⟩ := List.forall_mem_cons.mp h
    obtain ⟨named, hn, hv⟩ := ih hs
    obtain ⟨_ | n, v⟩ := m
    · cases hm
    · refine ⟨(String.ofList n, v) :: named, ?_, fun name => ?_⟩
      · rw [memberNames?] at hn ⊢
        rw [List.mapM_cons, hn]
        rfl
      · have hb : (String.ofList n == name) = (some n == some name.toList) := by
          rw [Bool.eq_iff_iff, beq_iff_eq, beq_iff_eq, Option.some.injEq, ← String.toList_inj,
            String.toList_ofList]
        have := hv name
        simp only [valuesOf, valuesAt, List.filter_cons, hb] at this ⊢
        split <;> simp [this]

theorem memberNames?_of_not_named (h : ¬Named members) : memberNames? members = none := by
  induction members with
  | nil => exact absurd (fun _ hm => nomatch hm) h
  | cons m members ih =>
    rw [memberNames?, List.mapM_cons]
    obtain ⟨_ | n, v⟩ := m
    · rfl
    · have hs : ¬Named members := fun hs => h (List.forall_mem_cons.mpr ⟨rfl, hs⟩)
      have := ih hs
      rw [memberNames?] at this
      rw [this]
      rfl

theorem fields?_object (least : Nat) (names : List String)
    (members : List (Option (List Char) × Written)) :
    fields? least names (.object members) =
      if Named members then names.mapM fun name => single? (valuesAt name members) else none := by
  split
  · next h =>
    obtain ⟨named, hn, hv⟩ := memberNames?_of_named h
    simp only [fields?, hn, hv, Option.bind_eq_bind, Option.bind_some]
  · next h =>
    simp only [fields?, memberNames?_of_not_named h, Option.bind_eq_bind, Option.bind_none]

/-- A member whose name is made of characters and is none of the names of the fields. -/
def Foreign (names : List String) (m : Option (List Char) × Written) : Prop :=
  ∃ name, m.1 = some name ∧ String.ofList name ∉ names

/-- Objects of which the second has the members of the first in any order, with values that are
related, and foreign members besides. -/
inductive Rearranged (names : List String) (R : Option (List Char) → Written → Written → Prop) :
    Written → Written → Prop where
  | mk {members kept foreign members' : List (Option (List Char) × Written)}
      (hk : List.Forall₂ (fun m m' => m.1 = m'.1 ∧ R m.1 m.2 m'.2) members kept)
      (hf : ∀ m ∈ foreign, Foreign names m) (hp : members'.Perm (foreign ++ kept)) :
      Rearranged names R (.object members) (.object members')

theorem single?_perm {vs ws : List Written} (h : vs.Perm ws) : single? vs = single? ws := by
  match vs, ws, h.length_eq with
  | [], [], _ => rfl
  | [v], [w], _ => rw [List.singleton_perm_singleton.mp h]
  | _ :: _ :: _, _ :: _ :: _, _ => rfl

theorem valuesAt_perm (h : members.Perm members') :
    (valuesAt name members).Perm (valuesAt name members') := (h.filter _).map _

theorem valuesAt_append (name : String) (ms ns : List (Option (List Char) × Written)) :
    valuesAt name (ms ++ ns) = valuesAt name ms ++ valuesAt name ns := by
  simp [valuesAt]

theorem valuesAt_foreign (hf : ∀ m ∈ foreign, Foreign names m) (hn : name ∈ names) :
    valuesAt name foreign = [] := by
  rw [valuesAt, List.map_eq_nil_iff, List.filter_eq_nil_iff]
  intro m hm he
  obtain ⟨n, hmn, hnot⟩ := hf m hm
  rw [hmn, beq_iff_eq, Option.some.injEq] at he
  rw [he, String.ofList_toList] at hnot
  exact hnot hn

theorem mapM_congr {α : Type} {f g : String → Option α} (h : ∀ name ∈ names, f name = g name) :
    names.mapM f = names.mapM g := by
  induction names with
  | nil => rfl
  | cons n names ih =>
    obtain ⟨hn, hs⟩ := List.forall_mem_cons.mp h
    rw [List.mapM_cons, List.mapM_cons, hn, ih hs]

/-- Neither the order of the members matters nor what is foreign among them. -/
theorem fields?_perm (least : Nat) (hf : ∀ m ∈ foreign, Foreign names m)
    (hp : members'.Perm (foreign ++ kept)) :
    fields? least names (.object members') = fields? least names (.object kept) := by
  have hnamed : Named members' ↔ Named kept := by
    constructor
    · exact fun h m hm => h m (hp.mem_iff.mpr (List.mem_append_right _ hm))
    · intro h m hm
      rcases List.mem_append.mp (hp.mem_iff.mp hm) with hm | hm
      · obtain ⟨n, hn, -⟩ := hf m hm
        rw [hn]
        rfl
      · exact h m hm
  rw [fields?_object, fields?_object]
  simp only [hnamed]
  congr 1
  refine mapM_congr fun name hn => single?_perm ?_
  have hv : (valuesAt name members').Perm (valuesAt name (foreign ++ kept)) := valuesAt_perm hp
  rwa [valuesAt_append, valuesAt_foreign hf hn, List.nil_append] at hv

/-- Members that are kept with their values are read alike. -/
theorem Rearranged.fields?_eq {w w' : Written} (h : Rearranged names (fun _ => Eq) w w')
    (least : Nat) : fields? least names w' = fields? least names w := by
  obtain ⟨hk, hf, hp⟩ := h
  have hm : List.Forall₂ Eq _ _ := hk.imp fun _ _ h => Prod.ext h.1 h.2
  rw [List.forall₂_eq_eq_eq] at hm
  rw [fields?_perm least hf hp, hm]

theorem named_forall₂
    (h : List.Forall₂ (fun m m' => m.1 = m'.1 ∧ R m.1 m.2 m'.2) members kept) :
    Named members ↔ Named kept := by
  unfold Named
  induction h with
  | nil => rfl
  | cons hm _ ih => rw [List.forall_mem_cons, List.forall_mem_cons, hm.1, ih]

theorem valuesAt_forall₂
    (h : List.Forall₂ (fun m m' => m.1 = m'.1 ∧ R m.1 m.2 m'.2) members kept) (name : String) :
    List.Forall₂ (R (some name.toList)) (valuesAt name members) (valuesAt name kept) := by
  induction h with
  | nil => exact .nil
  | @cons m m' _ _ hm _ ih =>
    obtain ⟨hn, hr⟩ := hm
    unfold valuesAt at ih ⊢
    rw [List.filter_cons, List.filter_cons, ← hn]
    split
    · next he =>
      rw [eq_of_beq he] at hr
      exact .cons hr ih
    · exact ih

theorem single?_forall₂ {S : Written → Written → Prop} {vs ws : List Written}
    (h : List.Forall₂ S vs ws) : Option.Rel (Option.Rel S) (single? vs) (single? ws) := by
  match h with
  | .nil => exact .some .none
  | .cons h .nil => exact .some (.some h)
  | .cons _ (.cons _ _) => exact .none

theorem orDefault_rel {α : Type} {S : Written → Written → Prop} {o o' : Option Written}
    (h : Option.Rel S o o') {default : α} {read : Written → Option α}
    (hr : ∀ v v', S v v' → read v' = read v) :
    orDefault default read o' = orDefault default read o := by
  cases h with
  | none => rfl
  | some h => exact hr _ _ h

theorem mapM_cons_rel {α β : Type} {S : α → α → Prop} {read read' : String → Option α}
    {f f' : List α → Option β} (h : Option.Rel S (read name) (read' name))
    (hf : ∀ a a', S a a' →
      ((names.mapM read').bind fun as => f' (a' :: as)) =
        (names.mapM read).bind fun as => f (a :: as)) :
    ((name :: names).mapM read').bind f' = ((name :: names).mapM read).bind f := by
  simp only [List.mapM_cons, Option.bind_eq_bind, Option.bind_assoc, Option.pure_def,
    Option.bind_some]
  generalize read name = o, read' name = o' at h
  cases h with
  | none => rfl
  | some h => exact hf _ _ h

end Json.Written

namespace Source

open Json.Written

/-- A value in the place of another one under a name: the same value, or a record with its members
rearranged. -/
def Replaces (name : Option (List Char)) (v v' : Written) : Prop :=
  v = v' ∨
  (name = some "ruleSearch".toList ∨ name = some "ruleExplore".toList) ∧
    Rearranged ListProfile.fieldNames (fun _ => Eq) v v' ∨
  name = some "ruleBookInfo".toList ∧ Rearranged InfoProfile.fieldNames (fun _ => Eq) v v'

namespace Replaces

variable {name : Option (List Char)} {v v' : Written}

theorem eq (h : Replaces name v v') (hs : name ≠ some "ruleSearch".toList)
    (he : name ≠ some "ruleExplore".toList) (hi : name ≠ some "ruleBookInfo".toList) : v' = v := by
  rcases h with rfl | ⟨hn | hn, -⟩ | ⟨hn, -⟩
  · rfl
  · exact absurd hn hs
  · exact absurd hn he
  · exact absurd hn hi

theorem list_eq (h : Replaces name v v') (hi : name ≠ some "ruleBookInfo".toList) :
    ListProfile.ofWritten? v' = ListProfile.ofWritten? v := by
  rcases h with rfl | ⟨-, hr⟩ | ⟨hn, -⟩
  · rfl
  · rw [ListProfile.ofWritten?, ListProfile.ofWritten?, hr.fields?_eq]
  · exact absurd hn hi

theorem info_eq (h : Replaces name v v') (hs : name ≠ some "ruleSearch".toList)
    (he : name ≠ some "ruleExplore".toList) :
    InfoProfile.ofWritten? v' = InfoProfile.ofWritten? v := by
  rcases h with rfl | ⟨hn | hn, -⟩ | ⟨-, hr⟩
  · rfl
  · exact absurd hn hs
  · exact absurd hn he
  · rw [InfoProfile.ofWritten?, InfoProfile.ofWritten?, hr.fields?_eq]

end Replaces

theorem ofWritten?_rearranged {w w' : Written} (h : Rearranged fieldNames Replaces w w') :
    ofWritten? w' = ofWritten? w := by
  obtain ⟨hk, hf, hp⟩ := h
  have hs (name : String) := single?_forall₂ (valuesAt_forall₂ hk name)
  unfold ofWritten?
  rw [fields?_perm 0 hf hp, fields?_object, fields?_object]
  simp only [named_forall₂ hk]
  split
  · refine mapM_cons_rel (hs _) fun url url' hurl => ?_
    refine mapM_cons_rel (hs _) fun name name' hname => ?_
    refine mapM_cons_rel (hs _) fun kind kind' hkind => ?_
    refine mapM_cons_rel (hs _) fun order order' horder => ?_
    refine mapM_cons_rel (hs _) fun pattern pattern' hpattern => ?_
    refine mapM_cons_rel (hs _) fun search search' hsearch => ?_
    refine mapM_cons_rel (hs _) fun explore explore' hexplore => ?_
    refine mapM_cons_rel (hs _) fun info info' hinfo => ?_
    simp only [List.mapM_nil, Option.pure_def, Option.bind_some]
    rw [orDefault_rel hurl fun _ _ h => by rw [h.eq (by decide) (by decide) (by decide)],
      orDefault_rel hname fun _ _ h => by rw [h.eq (by decide) (by decide) (by decide)],
      orDefault_rel hkind fun _ _ h => by rw [h.eq (by decide) (by decide) (by decide)],
      orDefault_rel horder fun _ _ h => by rw [h.eq (by decide) (by decide) (by decide)],
      orDefault_rel hpattern fun _ _ h => by rw [h.eq (by decide) (by decide) (by decide)],
      orDefault_rel hsearch fun _ _ h => h.list_eq (by decide),
      orDefault_rel hexplore fun _ _ h => h.list_eq (by decide),
      orDefault_rel hinfo fun _ _ h => h.info_eq (by decide) (by decide)]
  · rfl

/-- Loading a source depends neither on the order of the members of the text and of the records in
it, nor on members whose names are none of the names of fields, as long as these names are made of
characters: whatever values such members have, at any depth, the text is accepted or refused as
before, and the source is the same. -/
theorem ofText_rearranged {text text' : String} {w w' : Written}
    (ht : SpellsPadded w text.toList) (ht' : SpellsPadded w' text'.toList)
    (h : Rearranged fieldNames Replaces w w') : ofText text' = ofText text := by
  rw [ofText, ofText, ht.parse?, ht'.parse?, Option.bind_some, Option.bind_some,
    ofWritten?_rearranged h]

theorem ofText_rearranged_foreign :
    let name : String × Value := ("bookSourceName", .string "S")
    let fields : List (String × Value) := [("name", .string "$.n"), ("author", .string "$.a")]
    let v : Value := .object [name, ("ruleSearch", .object fields)]
    let v' : Value := .object [("x", .array [.null]),
      ("ruleSearch", .object (("bookSourceName", .bool true) :: fields.reverse)),
      ("x", .string "y"), name]
    SpellsPadded v.written v.toText.toList ∧ SpellsPadded v'.written v'.toText.toList ∧
      Rearranged fieldNames Replaces v.written v'.written ∧
      (ofText v.toText).map Source.name = .ok "S" ∧ ofText v'.toText = ofText v.toText := by
  intro name fields v v'
  have hs : SpellsPadded v.written v.toText.toList := by
    apply Value.spells_toText
    simp [v, name, fields, Value.Whole, WholeMembers]
  have hs' : SpellsPadded v'.written v'.toText.toList := by
    apply Value.spells_toText
    simp [v', name, fields, Value.Whole, WholeItems, WholeMembers]
  let record := (Value.object (("bookSourceName", .bool true) :: fields.reverse)).written
  have hf : Rearranged ListProfile.fieldNames (fun _ => Eq) (Value.object fields).written record :=
    @Rearranged.mk _ _ _ _ [(some "bookSourceName".toList, .bool true)] _
      (.cons ⟨rfl, rfl⟩ (.cons ⟨rfl, rfl⟩ .nil))
      (List.forall_mem_singleton.mpr ⟨_, rfl, by decide⟩) (.cons _ (.swap _ _ _))
  have hx (w : Written) : Foreign fieldNames (some "x".toList, w) := ⟨_, rfl, by decide⟩
  have hr : Rearranged fieldNames Replaces v.written v'.written :=
    @Rearranged.mk _ _ _ [(some name.1.toList, name.2.written), (some "ruleSearch".toList, record)]
      [(some "x".toList, .array [.null]), (some "x".toList, .string (some ['y']))] _
      (.cons ⟨rfl, .inl rfl⟩ (.cons ⟨rfl, .inr (.inl ⟨.inl rfl, hf⟩)⟩ .nil))
      (List.forall_mem_cons.mpr ⟨hx _, List.forall_mem_singleton.mpr (hx _)⟩)
      (.cons _ (List.perm_append_comm : ([_] ++ [_, _]).Perm _))
  exact ⟨hs, hs', hr, by decide +kernel, ofText_rearranged hs hs' hr⟩

/-- A name that holds half of a surrogate pair is foreign to all fields, and no source is read from
a text that has it. -/
theorem ofText_half_pair :
    SpellsPadded (.object []) "\x7b\x7d".toList ∧ (ofText "\x7b\x7d").isOk ∧
      SpellsPadded (.object [(none, .number ⟨false, ['1'], [], none⟩)])
        "\x7b\"\\ud800\":1\x7d".toList ∧
      ofText "\x7b\"\\ud800\":1\x7d" = .error .invalidSource := by
  refine ⟨.bare (.emptyObject blank_nil), by decide +kernel, ?_, by decide +kernel⟩
  have hn : (Quoted.mk (some []) none).Spells "\\ud800\"".toList none :=
    .unit (n := 0xD800) (by decide) (.close _)
  have hv : Spells (.number ⟨false, ['1'], [], none⟩) ['1'] := by
    exact .number ⟨⟨List.cons_ne_nil _ _, List.forall_mem_singleton.mpr rfl⟩, by decide,
      List.forall_mem_nil _, [], .none, rfl⟩
  exact .bare (.object (.last (.mk blank_nil hn blank_nil (.bare hv))))

end Source

end Catalog
