import Catalog.Error
import Catalog.Json.Record
import Catalog.Proofs.Json.Printing

/-! # Reading printed records back

A record is printed as the members of those fields that have values. Each field is found again by
its name, as no other has the same.
-/

namespace Catalog.Json

def givenMembers (names : List String) (values : List (Option Value)) : List (String × Value) :=
  (names.zip values).flatMap fun (name, v) => v.toList.map fun v => (name, v)

theorem zip_eq_givenMembers (names : List String) (values : List Value) :
    names.zip values = givenMembers names (values.map some) := by
  induction names generalizing values with
  | nil => rfl
  | cons n names ih =>
    cases values with
    | nil => rfl
    | cons v values => exact congrArg ((n, v) :: ·) (ih values)

theorem mem_of_mem_givenMembers {names : List String} {values : List (Option Value)}
    {m : String × Value} (h : m ∈ givenMembers names values) :
    m.1 ∈ names ∧ some m.2 ∈ values := by
  obtain ⟨⟨n, v⟩, hz, hv⟩ := List.mem_flatMap.mp h
  obtain ⟨u, hu, rfl⟩ := List.mem_map.mp hv
  obtain rfl := Option.mem_toList.mp hu
  exact List.of_mem_zip hz

theorem whole_givenMembers {names : List String} {values : List (Option Value)}
    (h : ∀ v, some v ∈ values → v.Whole) : (Value.object (givenMembers names values)).Whole :=
  wholeMembers_iff.mpr fun m hm => h m.2 (mem_of_mem_givenMembers hm).2

theorem name_mem_writtenMembers {name : String} {members : List (String × Value)} :
    some name.toList ∈ (writtenMembers members).map Prod.fst ↔ name ∈ members.map Prod.fst := by
  simp [writtenMembers_eq_map, String.toList_inj]

@[simp]
theorem Value.whole_string (s : String) : (Value.string s).Whole := trivial

@[simp]
theorem Value.whole_int (n : Int) : (Value.number (.int n)).Whole := trivial

@[simp]
theorem Value.whole_ofOption (s : Option String) : (Value.ofOption s).Whole := by
  cases s <;> trivial

theorem Value.whole_strings (entries : List (String × String)) :
    (Value.object (entries.map fun e => (e.1, .string e.2))).Whole := by
  refine wholeMembers_iff.mpr fun m hm => ?_
  obtain ⟨e, -, rfl⟩ := List.mem_map.mp hm
  trivial

namespace Written

theorem memberNames?_written (members : List (String × Value)) :
    memberNames? (writtenMembers members) =
      some (members.map fun m => (m.1, m.2.written)) := by
  rw [writtenMembers_eq_map, memberNames?, List.mapM_map]
  exact mapM_eq_pure_map fun m _ => by simp

theorem valuesOf_append (name : String) (ms ns : List (String × Written)) :
    valuesOf name (ms ++ ns) = valuesOf name ms ++ valuesOf name ns := by
  simp [valuesOf]

theorem valuesOf_given_of_notMem {names : List String} {name : String} (h : name ∉ names)
    (values : List (Option Value)) :
    valuesOf name ((givenMembers names values).map fun m => (m.1, m.2.written)) = [] := by
  simp only [valuesOf, List.map_eq_nil_iff, List.filter_eq_nil_iff, List.mem_map]
  rintro _ ⟨m, hm, rfl⟩ hn
  obtain rfl := eq_of_beq hn
  exact h (mem_of_mem_givenMembers hm).1

theorem valuesOf_given {names : List String} {values : List (Option Value)} (hn : names.Nodup)
    {name : String} {v : Option Value} (h : (name, v) ∈ names.zip values) :
    valuesOf name ((givenMembers names values).map fun m => (m.1, m.2.written)) =
      (v.map Value.written).toList := by
  induction names generalizing values with
  | nil => cases h
  | cons n names ih =>
    cases values with
    | nil => cases h
    | cons u values =>
      obtain ⟨hm, hn⟩ := List.nodup_cons.mp hn
      have hg : givenMembers (n :: names) (u :: values) =
          u.toList.map (fun v => (n, v)) ++ givenMembers names values := rfl
      rw [hg, List.map_append, valuesOf_append]
      rw [List.zip_cons_cons, List.mem_cons] at h
      rcases h with h | h
      · cases h
        rw [valuesOf_given_of_notMem hm]
        cases v <;> simp [valuesOf]
      · have hne : n ≠ name := by
          rintro rfl
          exact hm (List.of_mem_zip h).1
        rw [ih hn h]
        cases u <;> simp [valuesOf, hne]

/-- A printed record gives every field its value. -/
theorem fields?_given (least : Nat) {names : List String} (values : List (Option Value))
    (hn : names.Nodup) (hl : names.length = values.length) :
    fields? least names (Value.object (givenMembers names values)).written =
      some (values.map (·.map Value.written)) := by
  have hm := memberNames?_written (givenMembers names values)
  simp only [Value.written, fields?, hm, Option.bind_eq_bind, Option.bind_some]
  calc
    names.mapM _ = ((names.zip values).map Prod.fst).mapM _ := by
      rw [List.map_fst_zip (Nat.le_of_eq hl)]
    _ = some (((names.zip values).map Prod.snd).map fun v => v.map Value.written) := by
      rw [List.mapM_map, List.map_map]
      refine mapM_eq_pure_map fun field hf => ?_
      simp only [Function.comp_apply, valuesOf_given hn hf]
      cases field.2 <;> rfl
    _ = some (values.map (·.map Value.written)) := by
      rw [List.map_snd_zip (Nat.le_of_eq hl.symm)]

@[simp]
theorem text?_string (s : String) : text? (Value.string s).written = some s := by
  simp [Value.written, text?]

@[simp]
theorem optionalText?_ofOption (s : Option String) :
    optionalText? (Value.ofOption s).written = some s := by
  cases s with
  | none => rfl
  | some s => exact congrArg (Option.map some) (text?_string s)

theorem int32?_ofInt {n : Int} (h : -2147483648 ≤ n) (h' : n ≤ 2147483647) :
    int32? (Value.number (.int n)).written = some (.ofInt n) := by
  have hn := Numeral.toNumber?_ofInt (n := n) (by omega) (by omega)
  simp [Value.written, int32?, hn, h, h']

@[simp]
theorem int32?_toInt (n : Int32) : int32? (Value.number (.int n.toInt)).written = some n := by
  rw [int32?_ofInt n.le_toInt (Int.le_of_lt_add_one n.toInt_lt), Int32.ofInt_toInt]

@[simp]
theorem textMap?_strings (entries : List (String × String)) :
    textMap? (Value.object (entries.map fun e => (e.1, .string e.2))).written = some entries := by
  have hm := memberNames?_written (entries.map fun e => (e.1, Value.string e.2))
  simp only [Value.written, textMap?, hm, Option.bind_eq_bind, Option.bind_some, List.map_map,
    List.mapM_map]
  refine (mapM_eq_pure_map fun e _ => ?_).trans (congrArg some (List.map_id entries))
  simp [Value.written, text?]

@[simp]
theorem orDefault_some {α : Type} (default : α) (read : Written → Option α) (w : Written) :
    orDefault default read (some w) = read w := rfl

theorem mapM_optionalText? (texts : List (Option String)) :
    (texts.map fun t => some (Value.ofOption t).written).mapM (orDefault none optionalText?) =
      some texts := by
  rw [List.mapM_map]
  refine (mapM_eq_pure_map fun t _ => ?_).trans (congrArg some (List.map_id texts))
  exact optionalText?_ofOption t

theorem depthMembers_texts (entries : List (String × String)) :
    depthMembers (writtenMembers (entries.map fun e => (e.1, .string e.2))) = 0 := by
  induction entries with
  | nil => rfl
  | cons e entries ih =>
    simp only [List.map_cons, writtenMembers, Value.written, depthMembers, depth, ih, Nat.max_self]

theorem memberValues?_texts (entries : List (String × String)) :
    memberValues? (writtenMembers (entries.map fun e => (e.1, .string e.2))) =
      some (entries.map fun e => (e.1, .string e.2)) := by
  induction entries with
  | nil => rfl
  | cons e entries ih =>
    simp only [List.map_cons, writtenMembers, Value.written, memberValues?, value?, ih,
      Option.map_some, String.ofList_toList]

end Written

theorem Value.parse?_texts (entries : List (String × String)) :
    Value.parse? (Value.object (entries.map fun e => (e.1, .string e.2))).render =
      some (.object (sortMembers (entries.map fun e => (e.1, .string e.2)))) := by
  have hw := Written.parse?_toText (Value.whole_strings entries)
  rw [Value.toText, String.toList_ofList] at hw
  have hd : ¬Written.depthLimit <
      (Value.object (entries.map fun e => (e.1, .string e.2))).written.depth := by
    rw [Value.written, Written.depth, Written.depthMembers_texts]
    decide
  rw [Value.parse?, hw, Option.bind_some, Written.toValue?, if_neg hd, Value.written,
    Written.value?, Written.memberValues?_texts, Option.map_some]

section

variable {α β : Type} {members : List (String × α)}

theorem insertMember_map (f : α → β) (name : String) (value : α) (members : List (String × α)) :
    insertMember name (f value) (members.map fun m => (m.1, f m.2)) =
      (insertMember name value members).map fun m => (m.1, f m.2) := by
  induction members with
  | nil => rfl
  | cons m members ih =>
    simp only [List.map_cons, insertMember, ih]
    split
    · rfl
    · split <;> rfl

theorem sortMembers_map (f : α → β) (members : List (String × α)) :
    sortMembers (members.map fun m => (m.1, f m.2)) =
      (sortMembers members).map fun m => (m.1, f m.2) := by
  have hs (done : List (String × α)) :
      (members.map fun m => (m.1, f m.2)).foldl (fun acc m => insertMember m.1 m.2 acc)
          (done.map fun m => (m.1, f m.2)) =
        (members.foldl (fun acc m => insertMember m.1 m.2 acc) done).map fun m => (m.1, f m.2) := by
    induction members generalizing done with
    | nil => rfl
    | cons m members ih =>
      have hi := insertMember_map f m.1 m.2 done
      rw [List.map_cons, List.foldl_cons, List.foldl_cons, hi, ih]
  exact hs []

theorem insertMember_perm {name : String} (h : name ∉ members.map Prod.fst) (value : α) :
    (insertMember name value members).Perm ((name, value) :: members) := by
  induction members with
  | nil => exact .refl _
  | cons m members ih =>
    rw [List.map_cons, List.mem_cons, not_or] at h
    rw [insertMember]
    split
    · exact .refl _
    · rw [if_neg h.1]
      exact ((ih h.2).cons m).trans (.swap _ _ _)

theorem foldl_insertMember_perm (done : List (String × α))
    (h : ((members ++ done).map Prod.fst).Nodup) :
    (members.foldl (fun acc m => insertMember m.1 m.2 acc) done).Perm (members ++ done) := by
  induction members generalizing done with
  | nil => exact .refl done
  | cons m members ih =>
    have hm := h
    rw [List.cons_append, List.map_cons, List.nodup_cons, List.map_append] at hm
    have hi : (insertMember m.1 m.2 done).Perm (m :: done) :=
      insertMember_perm (fun hd => hm.1 (List.mem_append_right _ hd)) m.2
    have hp : (members ++ insertMember m.1 m.2 done).Perm (m :: (members ++ done)) :=
      (hi.append_left members).trans List.perm_middle
    exact (ih _ ((hp.map Prod.fst).nodup_iff.mpr h)).trans hp

theorem sortMembers_perm (h : (members.map Prod.fst).Nodup) :
    (sortMembers members).Perm members := by
  have hp := foldl_insertMember_perm [] (by rwa [List.append_nil])
  rwa [List.append_nil] at hp

end

end Catalog.Json
