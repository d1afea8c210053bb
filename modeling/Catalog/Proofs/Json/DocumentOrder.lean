import Catalog.Proofs.Json.Printing
import Catalog.Proofs.Json.Selection

/-! # The order of what paths select

A path is followed with the places of what it finds. A step to parts of values that lie apart finds
values that lie apart, so it keeps the order of the document. What a step to any depth finds may lie
in one another; behind it the order is kept by the steps to a first part, and by no others.
-/

namespace Catalog.Json

variable {v w : Value} {p q : Place} {name : String} {s : Segment}

theorem InOrder.of_pairwise {found : List (Place × Value)} {x y : Place × Value}
    {R : Place × Value → Place × Value → Prop} (h : InOrder found) (hR : found.Pairwise R)
    (hx : x ∈ found) (hy : y ∈ found) (hlt : x.1 < y.1) : R x y := by
  obtain ⟨i, hi, rfl⟩ := List.getElem_of_mem hx
  obtain ⟨j, hj, rfl⟩ := List.getElem_of_mem hy
  rcases Nat.lt_trichotomy i j with hij | rfl | hij
  · exact List.pairwise_iff_getElem.mp hR i j hi hj hij
  · exact absurd hlt (List.lt_irrefl _)
  · exact absurd hlt (List.lt_asymm (List.pairwise_iff_getElem.mp h j i hj hi hij))

namespace Segment

def pick : Segment → Value → List ((Option String × Value) × Nat)
  | .key name, v => (v.parts.zipIdx.find? fun m => m.1.1 == some name).toList
  | .index i, .array items =>
    if place items.length i < 0 then []
    else (Value.array items).parts.zipIdx[(place items.length i).toNat]?.toList
  | .wildcard, v => v.parts.zipIdx
  | _, _ => []

/-- What a step leads to, with its place. -/
def locate : Segment → Value → List (Place × Value)
  | .descendant name, v => v.locate name
  | s, v => (s.pick v).map fun m => ([m.2], m.1.2)

theorem locate_eq_pick (h : ¬∃ name, s = .descendant name) (v : Value) :
    s.locate v = (s.pick v).map fun m => ([m.2], m.1.2) := by
  cases s with
  | descendant name => exact absurd ⟨name, rfl⟩ h
  | _ => rfl

theorem pick_sublist (s : Segment) (v : Value) : (s.pick v).Sublist v.parts.zipIdx := by
  have hoption {α : Type} {l : List α} {x : Option α} (h : ∀ a, x = some a → a ∈ l) :
      x.toList.Sublist l := by
    cases x with
    | none => exact List.nil_sublist l
    | some a => exact List.singleton_sublist.mpr (h a rfl)
  unfold pick
  split
  · exact hoption fun m => List.mem_of_find?_eq_some
  · split
    · exact List.nil_sublist _
    · exact hoption fun m => List.mem_of_getElem?
  · exact List.Sublist.refl _
  · exact List.nil_sublist _

theorem pick_key (name : String) (members : List (String × Value)) :
    ((key name).pick (.object members)).map (fun m => m.1.2) = (members.lookup name).toList := by
  suffices h : ∀ i, (((members.map fun m => (some m.1, m.2)).zipIdx i).find? fun m =>
      m.1.1 == some name).toList.map (fun m => m.1.2) = (members.lookup name).toList from h 0
  induction members with
  | nil => exact fun _ => rfl
  | cons m members ih =>
    obtain ⟨n, w⟩ := m
    intro i
    by_cases hn : n = name
    · subst hn
      simp
    · have hne : (name == n) = false := beq_false_of_ne (Ne.symm hn)
      simp [List.lookup_cons, hn, hne, ih]

theorem values_pick (h : ¬∃ name, s = .descendant name) (v : Value) :
    (s.pick v).map (fun m => m.1.2) = s.select v := by
  cases s with
  | key name =>
    cases v with
    | object members => exact pick_key name members
    | array items =>
      have hnone : (Value.array items).parts.zipIdx.find? (fun m => m.1.1 == some name) = none := by
        rw [List.find?_eq_none]
        intro m hm
        obtain ⟨w, -, hw⟩ := List.mem_map.mp
          (List.mem_of_getElem? (List.mem_zipIdx_iff_getElem?.mp hm))
        simp [← hw]
      rw [pick, hnone]
      rfl
    | _ => rfl
  | index i =>
    cases v with
    | array items =>
      rw [pick, select_index]
      split
      · rfl
      · rw [List.getElem?_zipIdx, Value.parts, List.getElem?_map]
        cases items[(place items.length i).toNat]? <;> rfl
    | _ => rfl
  | wildcard =>
    have hparts : v.parts.zipIdx.map (fun m => m.1.2) = v.parts.map Prod.snd := by
      conv_rhs => rw [← List.zipIdx_map_fst 0 v.parts, List.map_map]
      rfl
    rw [pick, hparts, select_wildcard]
  | descendant name => exact absurd ⟨name, rfl⟩ h

theorem values_locate (s : Segment) (v : Value) : (s.locate v).map Prod.snd = s.select v := by
  by_cases h : ∃ name, s = .descendant name
  · obtain ⟨name, rfl⟩ := h
    exact v.values_locate name
  · rw [locate_eq_pick h, List.map_map, ← values_pick h]
    rfl

theorem at?_of_mem_locate {x : Place × Value} (h : x ∈ s.locate v) : v.at? x.1 = some x.2 := by
  by_cases hs : ∃ name, s = .descendant name
  · obtain ⟨name, rfl⟩ := hs
    exact Value.at?_of_mem_locate h
  · rw [locate_eq_pick hs] at h
    obtain ⟨m, hm, rfl⟩ := List.mem_map.mp h
    have hpart := List.mem_zipIdx_iff_getElem?.mp ((s.pick_sublist v).subset hm)
    exact Value.at?_cons.mpr ⟨m.1, hpart, rfl⟩

theorem locate_inOrder (s : Segment) (v : Value) : InOrder (s.locate v) := by
  by_cases hs : ∃ name, s = .descendant name
  · obtain ⟨name, rfl⟩ := hs
    exact v.locate_inOrder name
  · rw [locate_eq_pick hs, InOrder, List.pairwise_map]
    refine ((pairwise_zipIdx v.parts).sublist (s.pick_sublist v)).imp fun h => ?_
    exact List.cons_lt_cons_iff.mpr (.inl h)

end Segment

namespace Path

/-- What the steps of a path lead to one after another, with its place in the value that they start
from. -/
def locateFrom : List Segment → Value → List (Place × Value)
  | [], v => [([], v)]
  | s :: rest, v => (s.locate v).flatMap fun x => (locateFrom rest x.2).map (under x.1)

def locate (path : Path) (root : Value) : List (Place × Value) := locateFrom path.segments root

variable {a b segments : List Segment} {x y : Place × Value}

theorem mem_locateFrom_cons : x ∈ locateFrom (s :: a) v ↔
    ∃ y ∈ s.locate v, ∃ z ∈ locateFrom a y.2, x = under y.1 z := by
  simp only [locateFrom, List.mem_flatMap, List.mem_map, eq_comm]

theorem locateFrom_append (a b : List Segment) (v : Value) :
    locateFrom (a ++ b) v =
      (locateFrom a v).flatMap fun x => (locateFrom b x.2).map (under x.1) := by
  induction a generalizing v with
  | nil =>
    rw [List.nil_append, locateFrom, List.flatMap_singleton]
    exact (List.map_id _).symm
  | cons s a ih =>
    rw [List.cons_append, locateFrom, locateFrom, List.flatMap_assoc]
    refine List.flatMap_congr fun x _ => ?_
    rw [ih, List.map_flatMap, List.flatMap_map]
    refine List.flatMap_congr fun y _ => ?_
    rw [List.map_map]
    refine List.map_congr_left fun z _ => ?_
    simp [under]

theorem values_locateFrom (segments : List Segment) (v : Value) :
    (locateFrom segments v).map Prod.snd = selectAll segments [v] := by
  induction segments generalizing v with
  | nil => rfl
  | cons s rest ih =>
    rw [locateFrom, List.map_flatMap, selectAll, List.flatMap_singleton, selectAll_eq_flatMap,
      ← s.values_locate, List.flatMap_map]
    refine List.flatMap_congr fun x _ => ?_
    rw [← ih, List.map_map]
    rfl

theorem at?_of_mem_locateFrom (h : x ∈ locateFrom segments v) : v.at? x.1 = some x.2 := by
  induction segments generalizing v x with
  | nil =>
    cases List.mem_singleton.mp h
    rfl
  | cons s rest ih =>
    obtain ⟨y, hy, z, hz, rfl⟩ := mem_locateFrom_cons.mp h
    rw [under, Value.at?_append, Segment.at?_of_mem_locate hy, Option.bind_some, ih hz]

/-- A step that goes to the first part of a value, if anywhere. -/
def IsFirst (s : Segment) : Prop := s = .key "" ∨ s = .index 0

/-- No name comes before the empty one. -/
theorem number_of_empty_name {members : List (String × Value)} (h : Ascending members) {n : Nat}
    (hn : members[n]? = some ("", w)) : n = 0 := by
  obtain ⟨hlt, he⟩ := List.getElem?_eq_some_iff.mp hn
  by_contra hne
  have hless := List.pairwise_iff_getElem.mp h 0 n (by omega) hlt (Nat.pos_of_ne_zero hne)
  rw [he] at hless
  exact List.not_lt_nil _ (String.lt_iff.mp hless)

theorem place_of_first {x : Place × Value} (hs : IsFirst s) (hv : v.Ordered)
    (hx : x ∈ s.locate v) : x.1 = [0] := by
  rcases hs with rfl | rfl
  · obtain ⟨m, hm, rfl⟩ := List.mem_map.mp hx
    have hfind := Option.mem_toList.mp hm
    have hname : m.1.1 = some "" := by simpa using List.find?_some hfind
    have hpart := List.mem_zipIdx_iff_getElem?.mp (List.mem_of_find?_eq_some hfind)
    cases v with
    | object members =>
      rw [Value.parts, List.getElem?_map] at hpart
      obtain ⟨⟨n, w⟩, hmember, he⟩ := Option.map_eq_some_iff.mp hpart
      obtain rfl : n = "" := by
        rw [← he] at hname
        exact Option.some.inj hname
      rw [number_of_empty_name hv.members hmember]
    | array items =>
      rw [Value.parts, List.getElem?_map] at hpart
      obtain ⟨w, -, he⟩ := Option.map_eq_some_iff.mp hpart
      rw [← he] at hname
      cases hname
    | _ => cases hpart
  · cases v with
    | array items =>
      obtain ⟨m, hm, rfl⟩ := List.mem_map.mp hx
      have hplace : Segment.place items.length 0 = 0 := by simp [Segment.place]
      rw [Segment.pick, hplace, if_neg (by decide), Option.mem_toList, Int.toNat_zero,
        List.getElem?_zipIdx] at hm
      obtain ⟨n, -, rfl⟩ := Option.map_eq_some_iff.mp hm
      rfl
    | _ => cases hx

theorem place_of_firsts (h : ∀ s ∈ segments, IsFirst s) (hv : v.Ordered)
    (hx : x ∈ locateFrom segments v) : x.1 = List.replicate segments.length 0 := by
  induction segments generalizing v x with
  | nil =>
    cases List.mem_singleton.mp hx
    rfl
  | cons s rest ih =>
    obtain ⟨hs, hrest⟩ := List.forall_mem_cons.mp h
    obtain ⟨y, hy, z, hz, rfl⟩ := mem_locateFrom_cons.mp hx
    have hz := ih hrest (hv.of_at? (Segment.at?_of_mem_locate hy)) hz
    rw [under, place_of_first hs hv hy, hz]
    rfl

theorem append_zeros_lt (h : p < q) (n : Nat) :
    p ++ List.replicate n 0 < q ++ List.replicate n 0 := by
  have hlong (l : Place) (n : Nat) (hl : n < l.length) : List.replicate n 0 < l := by
    induction l generalizing n with
    | nil => cases hl
    | cons i l ih =>
      cases n with
      | zero => exact List.nil_lt_cons i l
      | succ n =>
        rw [List.replicate_succ, List.cons_lt_cons_iff]
        rcases Nat.eq_zero_or_pos i with rfl | hi
        · exact .inr ⟨rfl, ih n (Nat.lt_of_succ_lt_succ hl)⟩
        · exact .inl hi
  induction q generalizing p with
  | nil => cases h
  | cons j q ih =>
    cases p with
    | nil =>
      refine hlong _ n ?_
      simp only [List.length_append, List.length_cons, List.length_replicate]
      omega
    | cons i p =>
      rcases List.cons_lt_cons_iff.mp h with hlt | ⟨rfl, hlt⟩
      · exact List.cons_lt_cons_iff.mpr (.inl hlt)
      · exact List.cons_lt_cons_iff.mpr (.inr ⟨rfl, ih hlt⟩)

/-- Behind a step to any depth a path may only go to first parts. -/
def KeepsOrder (segments : List Segment) : Prop :=
  segments.Pairwise fun s t => (∃ name, s = .descendant name) → IsFirst t

theorem inOrder_of_keepsOrder (h : KeepsOrder segments) (hv : v.Ordered) :
    InOrder (locateFrom segments v) := by
  induction segments generalizing v with
  | nil => exact List.pairwise_singleton _ _
  | cons s rest ih =>
    obtain ⟨hs, hrest⟩ := List.pairwise_cons.mp h
    have hordered {x : Place × Value} (hx : x ∈ s.locate v) : x.2.Ordered :=
      hv.of_at? (Segment.at?_of_mem_locate hx)
    rw [locateFrom, InOrder, List.pairwise_flatMap]
    refine ⟨fun x hx => (ih hrest (hordered hx)).map_under x.1, ?_⟩
    by_cases hd : ∃ name, s = .descendant name
    · refine (s.locate_inOrder v).imp_of_mem fun {x y} hx hy hlt x' hx' y' hy' => ?_
      obtain ⟨a, ha, rfl⟩ := List.mem_map.mp hx'
      obtain ⟨b, hb, rfl⟩ := List.mem_map.mp hy'
      have hfirst : ∀ t ∈ rest, IsFirst t := fun t ht => hs t ht hd
      rw [under, under, place_of_firsts hfirst (hordered hx) ha,
        place_of_firsts hfirst (hordered hy) hb]
      exact append_zeros_lt hlt rest.length
    · rw [Segment.locate_eq_pick hd, List.pairwise_map]
      refine ((pairwise_zipIdx v.parts).sublist (s.pick_sublist v)).imp fun hlt x hx y hy => ?_
      obtain ⟨a, -, rfl⟩ := List.mem_map.mp hx
      obtain ⟨b, -, rfl⟩ := List.mem_map.mp hy
      exact List.cons_lt_cons_iff.mpr (.inl hlt)

theorem mem_locate_index {i : Int64} {items : List Value} {n : Nat}
    (hn : Segment.place items.length i = n) (hw : items[n]? = some w) :
    ([n], w) ∈ (Segment.index i).locate (.array items) := by
  refine List.mem_map.mpr ⟨((none, w), n), ?_, rfl⟩
  rw [Segment.pick, hn, if_neg (by omega), Option.mem_toList, Int.toNat_natCast,
    List.getElem?_zipIdx, Value.parts, List.getElem?_map, hw, Option.map_some, Option.map_some,
    Nat.zero_add]

theorem exists_locate (s : Segment) (hw : w.Ordered) :
    ∃ v : Value, v.Ordered ∧ ∃ p, (p, w) ∈ s.locate v := by
  cases s with
  | key name => exact ⟨_, .member name hw, [0], by simp [Segment.locate, Segment.pick, Value.parts]⟩
  | index i =>
    by_cases hi : i.toInt < 0
    · refine ⟨.array (w :: List.replicate (i.toInt.natAbs - 1) .null), .array ?_, [0],
        mem_locate_index ?_ rfl⟩
      · exact List.forall_mem_cons.mpr ⟨hw, .nulls _⟩
      · rw [Segment.place, if_pos hi, List.length_cons, List.length_replicate]
        omega
    · refine ⟨.array (List.replicate i.toInt.natAbs .null ++ [w]), .array ?_, [i.toInt.natAbs],
        mem_locate_index ?_ (by simp)⟩
      · exact List.forall_mem_append.mpr ⟨.nulls _, by simpa using hw⟩
      · rw [Segment.place, if_neg hi]
        omega
  | wildcard =>
    exact ⟨.array [w], .array (by simpa using hw), [0],
      by simp [Segment.locate, Segment.pick, Value.parts]⟩
  | descendant name =>
    exact ⟨_, .member name hw, [0], Value.mem_locate.mpr ⟨[], 0, _, rfl, rfl, rfl⟩⟩

theorem exists_locateFrom (segments : List Segment) (hw : w.Ordered) :
    ∃ v : Value, v.Ordered ∧ ∃ p, (p, w) ∈ locateFrom segments v := by
  induction segments with
  | nil => exact ⟨w, hw, [], List.mem_singleton.mpr rfl⟩
  | cons s rest ih =>
    obtain ⟨u, hu, q, hq⟩ := ih
    obtain ⟨v, hv, p, hp⟩ := exists_locate s hu
    exact ⟨v, hv, p ++ q, mem_locateFrom_cons.mpr ⟨(p, u), hp, (q, w), hq, rfl⟩⟩

theorem exists_locate_behind (hd : ¬∃ name, s = .descendant name) (hf : ¬IsFirst s)
    (hw : w.Ordered) {r : Value} (hr : r.Ordered) :
    ∃ v : Value, v.Ordered ∧ v.at? [0] = some w ∧ ∃ n, 0 < n ∧ ([n], r) ∈ s.locate v := by
  -- for each kind of step, a value with `w` in its first part and with `r` where the step leads
  cases s with
  | key name =>
    have hname : name ≠ "" := by
      rintro rfl
      exact hf (.inl rfl)
    have hlt : "" < name := by
      obtain ⟨c, cs, hc⟩ := List.exists_cons_of_ne_nil (l := name.toList) (by simpa using hname)
      rw [String.lt_iff, hc]
      exact List.nil_lt_cons c cs
    refine ⟨.object [("", w), (name, r)], .object ?_ ?_, rfl, 1, Nat.one_pos, ?_⟩
    · simpa [Ascending] using hlt
    · simpa using ⟨hw, hr⟩
    · simp [Segment.locate, Segment.pick, Value.parts, Ne.symm hname]
  | index i =>
    by_cases hi : i.toInt < 0
    · refine ⟨.array (w :: r :: List.replicate (i.toInt.natAbs - 1) .null), .array ?_, rfl, 1,
        Nat.one_pos, mem_locate_index ?_ rfl⟩
      · exact List.forall_mem_cons.mpr ⟨hw, List.forall_mem_cons.mpr ⟨hr, .nulls _⟩⟩
      · rw [Segment.place, if_pos hi]
        simp only [List.length_cons, List.length_replicate]
        omega
    · have hzero : i.toInt ≠ 0 := by
        intro h
        exact hf (.inr (congrArg Segment.index (Int64.toInt_inj.mp h)))
      refine ⟨.array (w :: (List.replicate (i.toInt.natAbs - 1) .null ++ [r])), .array ?_, rfl,
        i.toInt.natAbs, by omega, mem_locate_index ?_ ?_⟩
      · exact List.forall_mem_cons.mpr
          ⟨hw, List.forall_mem_append.mpr ⟨.nulls _, by simpa using hr⟩⟩
      · rw [Segment.place, if_neg hi]
        omega
      · obtain ⟨n, hn⟩ := Nat.exists_eq_succ_of_ne_zero (Int.natAbs_ne_zero.mpr hzero)
        simp [hn]
  | wildcard =>
    refine ⟨.array [w, r], .array (by simpa using ⟨hw, hr⟩), rfl, 1, Nat.one_pos, ?_⟩
    simp [Segment.locate, Segment.pick, Value.parts]
  | descendant name => exact absurd ⟨name, rfl⟩ hd

variable {mid : List Segment} {t : Segment}

/-- Members of a name, one of them in the first part of what the next steps reach from the other. -/
theorem lt_of_inOrder
    (h : ∀ v : Value, v.Ordered → InOrder (locateFrom (.descendant name :: (mid ++ a)) v))
    {u : Value} (hv : v.Ordered) (hu : v.at? [0] = some (.object [(name, u)]))
    (hx : x ∈ locateFrom a v) (hy : y ∈ locateFrom (mid ++ a) u) : x.1 < 0 :: 0 :: y.1 := by
  obtain ⟨o, ho, p, hp⟩ := exists_locateFrom mid hv
  have hall := h (.object [(name, o)]) (.member name ho)
  rw [locateFrom, InOrder, List.pairwise_flatMap] at hall
  -- the outer member comes before the inner one, so all that it leads to has to come first
  have houter : ([0], o) ∈ (Value.object [(name, o)]).locate name :=
    Value.mem_locate.mpr ⟨[], 0, _, rfl, rfl, rfl⟩
  have hinner : (0 :: (p ++ [0, 0]), u) ∈ (Value.object [(name, o)]).locate name := by
    refine Value.mem_locate.mpr ⟨0 :: (p ++ [0]), 0, .object [(name, u)], by simp, ?_, rfl⟩
    rw [Value.at?_cons]
    refine ⟨(some name, o), rfl, ?_⟩
    rw [Value.at?_append, at?_of_mem_locateFrom hp, Option.bind_some, hu]
  have hlt := (Value.locate_inOrder name _).of_pairwise hall.2 houter hinner
    (Place.lt_append [0] (by simp)) (under [0] (under p x)) ?_ (under (0 :: (p ++ [0, 0])) y)
    (List.mem_map_of_mem hy)
  · have hleft : (under [0] (under p x)).1 = (0 :: p) ++ x.1 := rfl
    have hright : (under (0 :: (p ++ [0, 0])) y).1 = (0 :: p) ++ 0 :: 0 :: y.1 := by simp [under]
    rwa [hleft, hright, Place.append_lt_append] at hlt
  · refine List.mem_map_of_mem ?_
    rw [locateFrom_append]
    exact List.mem_flatMap.mpr ⟨(p, v), hp, List.mem_map_of_mem hx⟩

/-- Behind a step to any depth, a step that is not to first parts loses the order of some value. -/
theorem isFirst_of_inOrder
    (h : ∀ v : Value, v.Ordered → InOrder (locateFrom (.descendant name :: (mid ++ t :: a)) v)) :
    IsFirst t := by
  by_contra ht
  obtain ⟨r, hr, c, hc⟩ := exists_locateFrom a Value.Ordered.null
  have hthrough {v : Value} {p : Place} (hp : (p, r) ∈ t.locate v) :
      (p ++ c, .null) ∈ locateFrom (t :: a) v :=
    mem_locateFrom_cons.mpr ⟨(p, r), hp, (c, .null), hc, rfl⟩
  have hbehind {u v : Value} {p q : Place} (hq : (q, v) ∈ locateFrom mid u)
      (hp : (p, r) ∈ t.locate v) : (q ++ (p ++ c), .null) ∈ locateFrom (mid ++ t :: a) u := by
    rw [locateFrom_append]
    exact List.mem_flatMap.mpr ⟨(q, v), hq, List.mem_map.mpr ⟨_, hthrough hp, rfl⟩⟩
  by_cases hd : ∃ other, t = .descendant other
  · -- what is found from within is found from without before
    obtain ⟨other, rfl⟩ := hd
    obtain ⟨u, hu, q, hq⟩ := exists_locateFrom mid (.member other hr)
    have hinner : ([0], r) ∈ (Segment.descendant other).locate (.object [(other, r)]) :=
      Value.mem_locate.mpr ⟨[], 0, _, rfl, rfl, rfl⟩
    have houter : (0 :: 0 :: (q ++ [0]), r) ∈
        (Segment.descendant other).locate (.array [.object [(name, u)]]) := by
      refine Value.mem_locate.mpr ⟨0 :: 0 :: q, 0, .object [(other, r)], rfl, ?_, rfl⟩
      exact Value.at?_cons.mpr ⟨_, rfl, Value.at?_cons.mpr ⟨_, rfl, at?_of_mem_locateFrom hq⟩⟩
    have hv : (Value.array [.object [(name, u)]]).Ordered :=
      .array (List.forall_mem_singleton.mpr (.member name hu))
    have hlt := lt_of_inOrder h hv rfl (hthrough houter) (hbehind hq hinner)
    simp only [List.cons_append, List.append_assoc] at hlt
    exact List.lt_irrefl _ hlt
  · -- what the outer value leads to lies behind all of the inner one
    obtain ⟨v, hv, -, n, hn, hp⟩ := exists_locate_behind hd ht Value.Ordered.null hr
    obtain ⟨u, hu, q, hq⟩ := exists_locateFrom mid hv
    obtain ⟨v', hv', hfirst, n', hn', hp'⟩ :=
      exists_locate_behind hd ht (.member name hu) hr
    have hlt := lt_of_inOrder h hv' hfirst (hthrough hp') (hbehind hq hp)
    rcases List.cons_lt_cons_iff.mp hlt with hlt | ⟨he, -⟩ <;> omega

theorem keepsOrder_of_inOrder {segments : List Segment}
    (h : ∀ v : Value, v.Ordered → InOrder (locateFrom segments v)) : KeepsOrder segments := by
  induction segments with
  | nil => exact .nil
  | cons s rest ih =>
    refine List.pairwise_cons.mpr ⟨?_, ih fun v hv => ?_⟩
    · rintro t ht ⟨name, rfl⟩
      obtain ⟨mid, a, rfl⟩ := List.append_of_mem ht
      exact isFirst_of_inOrder h
    · obtain ⟨u, hu, p, hp⟩ := exists_locate s hv
      have hall := h u hu
      rw [locateFrom, InOrder, List.pairwise_flatMap] at hall
      refine (List.pairwise_map.mp (hall.1 (p, v) hp)).imp fun hlt => ?_
      exact Place.append_lt_append.mp hlt

end Path

/-- From every value a path selects in the order of the document, and nothing twice, exactly if it
goes to first parts only behind a step to any depth. -/
theorem select_inOrder_iff (path : Path) :
    (∀ v, (path.locate v).map Prod.snd = path.select v ∧
      ∀ x ∈ path.locate v, v.at? x.1 = some x.2) ∧
    ((∀ v : Value, v.Ordered → InOrder (path.locate v)) ↔ Path.KeepsOrder path.segments) :=
  ⟨fun v => ⟨Path.values_locateFrom path.segments v, fun _ => Path.at?_of_mem_locateFrom⟩,
    Path.keepsOrder_of_inOrder, fun h _ => Path.inOrder_of_keepsOrder h⟩

theorem select_inOrder_rows :
    let path : Path := ⟨[.wildcard, .descendant "a"]⟩
    let v : Value := .array [.object [("a", .object [("a", .null)])], .object [("a", .bool true)]]
    Path.parse "$[*]..a" = .ok path ∧ v.Ordered ∧ InOrder (path.locate v) ∧
      path.select v = [.object [("a", .null)], .null, .bool true] := by
  intro path v
  have ho : v.Ordered := by
    refine .array (List.forall_mem_cons.mpr ⟨?_, List.forall_mem_singleton.mpr ?_⟩)
    · exact .member "a" (.member "a" .null)
    · exact .member "a" (.of_parts nofun nofun)
  have hk : Path.KeepsOrder path.segments := by
    simp [path, Path.KeepsOrder]
  exact ⟨by decide +kernel, ho, (select_inOrder_iff path).2.mpr hk v ho, rfl⟩

/-- A member that lies deeper, and earlier, is selected after one that lies later. -/
theorem select_inner_last :
    let path : Path := ⟨[.descendant "a", .key "b"]⟩
    let one : Value := .number (.int 1)
    let two : Value := .number (.int 2)
    let v : Value := .object [("a", .object [("a", .object [("b", one)]), ("b", two)])]
    Path.parse "$..a.b" = .ok path ∧
      Value.parse? "\x7b\"a\":\x7b\"a\":\x7b\"b\":1\x7d,\"b\":2\x7d\x7d".toList = some v ∧
      v.Ordered ∧ path.select v = [two, one] ∧ path.locate v = [([0, 1], two), ([0, 0, 0], one)] ∧
      ¬InOrder (path.locate v) := by
  intro path one two v
  have hv : Value.parse? "\x7b\"a\":\x7b\"a\":\x7b\"b\":1\x7d,\"b\":2\x7d\x7d".toList = some v := by
    have ht : "\x7b\"a\":\x7b\"a\":\x7b\"b\":1\x7d,\"b\":2\x7d\x7d" = v.toText := by
      decide +kernel
    have hw : v.Whole := by simp [v, one, two, Value.Whole, WholeMembers]
    have hdepth : ¬Written.depthLimit < v.written.depth := by decide +kernel
    have hone : (Numeral.ofInt 1).toNumber? = some (.int 1) := by decide +kernel
    have htwo : (Numeral.ofInt 2).toNumber? = some (.int 2) := by decide +kernel
    rw [ht, Value.parse?, Written.parse?_toText hw, Option.bind_some, Written.toValue?,
      if_neg hdepth]
    have hlt : ¬"b" < "a" := by decide
    simp only [v, one, two, Value.written, writtenMembers, Written.value?, Written.memberValues?,
      hone, htwo, Option.map_some, String.ofList_toList, sortMembers, List.foldl_cons,
      List.foldl_nil, insertMember, hlt, if_false, String.reduceEq]
  have hl : path.locate v = [([0, 1], two), ([0, 0, 0], one)] := rfl
  refine ⟨by decide +kernel, hv, Value.ordered_of_parse? hv, rfl, hl, ?_⟩
  rw [hl]
  intro h
  exact absurd (List.rel_of_pairwise_cons h List.mem_cons_self) (by decide)

end Catalog.Json
