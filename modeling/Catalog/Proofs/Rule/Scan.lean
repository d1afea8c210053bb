import Catalog.Proofs.Json.Scan
import Catalog.Proofs.Rule.Script

/-! # Splitting rules byte by byte

A rule is scanned by its bytes, and its pieces are cut out at the places where separators are found.
Every step of the scan goes on, and the pieces are those of the rule: where something is found, a
character starts, as no byte inside a character looks like a mark. The same holds of paths, which
are scanned by their bytes too, and of the marks of dialects.
-/

namespace Catalog.Rule

open Text
open String (utf8Len)

/-- A scan at the byte `place`, in a piece that starts at the byte `start` with a link in front of
it, with some braces and perhaps a script block open. -/
structure Scan where
  start : Nat
  link : Link
  depth : Nat
  script : Bool
  place : Nat

structure Range where
  link : Link
  start : Nat
  stop : Nat

namespace Scan

def start₀ : Scan := ⟨0, .first, 0, false, 0⟩

def depthAt (depth : Nat) (ahead : List UInt8) : Nat :=
  if starts ['\x7b'] ahead then depth + 1 else if starts ['\x7d'] ahead then depth - 1 else depth

def separatorAt? (ahead : List UInt8) : Option Link :=
  if starts ['|', '|'] ahead then some .or
  else if starts ['&', '&'] ahead then some .and
  else none

/-- One round of the scan, with the piece that ends in it, if one does. There is none at the end of
the bytes, and none from `@js:` on. -/
def step (bs : List UInt8) (s : Scan) : Option (Option Range × Scan) :=
  let ahead := bs.drop s.place
  if ahead = [] then none
  else if s.script then
    if starts scriptClose ahead then
      some (none, { s with script := false, place := s.place + scriptClose.length })
    else some (none, { s with place := s.place + 1 })
  else if starts scriptOpen ahead then
    some (none, { s with script := true, place := s.place + scriptOpen.length })
  else if s.depth = 0 ∧ starts scriptMark ahead then none
  else
    let depth := depthAt s.depth ahead
    match if depth = 0 then separatorAt? ahead else none with
    | some next =>
      some (some ⟨s.link, s.start, s.place⟩, ⟨s.place + 2, next, depth, false, s.place + 2⟩)
    | none => some (none, { s with depth, place := s.place + 1 })

variable {bs tail : List UInt8} {s next : Scan} {range : Option Range}

theorem step_lt (h : step bs s = some (range, next)) :
    s.place < bs.length ∧ s.place < next.place := by
  unfold step at h
  dsimp only at h
  split at h
  · cases h
  · next hn =>
    refine ⟨by simpa using hn, ?_⟩
    split at h
    · split at h <;> cases h
      · exact Nat.lt_add_of_pos_right (by decide)
      · exact Nat.lt_succ_self _
    · split at h
      · cases h
        exact Nat.lt_add_of_pos_right (by decide)
      · split at h
        · cases h
        · split at h <;> cases h
          · exact Nat.lt_add_of_pos_right (by decide)
          · exact Nat.lt_succ_self _

def run (bs : List UInt8) (s : Scan) : List Range :=
  match _h : step bs s with
  | none => [⟨s.link, s.start, bs.length⟩]
  | some (range, next) => range.toList ++ run bs next
termination_by bs.length - s.place
decreasing_by
  have := step_lt _h
  omega

theorem run_of_stop (h : step bs s = none) : run bs s = [⟨s.link, s.start, bs.length⟩] := by
  rw [run]
  split
  · rfl
  · next he => rw [h] at he; cases he

theorem run_of_step (h : step bs s = some (range, next)) :
    run bs s = range.toList ++ run bs next := by
  rw [run]
  split
  · next he => rw [h] at he; cases he
  · next he =>
    rw [h] at he
    cases he
    rfl

end Scan

def cut? (text : String) (ranges : List Range) : Option (List (Link × String)) :=
  ranges.mapM fun r => (slice? text r.start r.stop).map (r.link, ·)

def scan? (text : String) : Option (List (Link × String)) :=
  cut? text (Scan.run (bytes text) .start₀)

namespace Scan

variable {r text pre cur : List Char} {c : Char} {link : Link} {start depth place : Nat}
  {script : Bool}

theorem depthAt_encode (depth : Nat) (c : Char) (r : List Char) :
    depthAt depth (encode (c :: r)) = braceDepth depth c := by
  simp only [depthAt, starts_encode, List.isPrefixOf, Bool.and_true, braceDepth]
  rw [Bool.beq_comm, Bool.beq_comm (a := '\x7d')]

theorem separatorAt?_encode (s : List Char) : separatorAt? (encode s) = separator? s := by
  simp only [separatorAt?, starts_encode, List.isPrefixOf_iff_prefix]
  split
  · next h => obtain ⟨t, rfl⟩ := h; rfl
  · next ho =>
    split
    · next h => obtain ⟨t, rfl⟩ := h; rfl
    · next ha => exact (separator?_eq_none_iff.mpr ⟨ho, ha⟩).symm

theorem step_encode (hs : bs.drop s.place = encode (c :: r)) :
    step bs s =
      if s.script then
        if scriptClose.isPrefixOf (c :: r) then
          some (none, { s with script := false, place := s.place + scriptClose.length })
        else some (none, { s with place := s.place + 1 })
      else if scriptOpen.isPrefixOf (c :: r) then
        some (none, { s with script := true, place := s.place + scriptOpen.length })
      else if s.depth = 0 ∧ scriptMark.isPrefixOf (c :: r) then none
      else
        match if braceDepth s.depth c = 0 then separator? (c :: r) else none with
        | some next => some (some ⟨s.link, s.start, s.place⟩,
            ⟨s.place + 2, next, braceDepth s.depth c, false, s.place + 2⟩)
        | none => some (none, { s with depth := braceDepth s.depth c, place := s.place + 1 }) := by
  have hn : encode (c :: r) ≠ [] := by
    rw [encode, List.flatMap_cons]
    exact fun h => String.utf8EncodeChar_ne_nil (List.append_eq_nil_iff.mp h).1
  simp only [step, hs, hn, if_false, starts_encode, depthAt_encode, separatorAt?_encode]

theorem step_of_ge {byte : UInt8} (hs : bs.drop s.place = byte :: tail) (hb : 128 ≤ byte.toNat) :
    step bs s = some (none, { s with place := s.place + 1 }) := by
  have hm (mark : List Char) (c : Char) (hc : c.toNat < 128) :
      starts (c :: mark) (byte :: tail) = false := starts_of_ge hb hc tail
  have hd : depthAt s.depth (byte :: tail) = s.depth := by
    rw [depthAt, hm _ _ (by decide), hm _ _ (by decide)]
    rfl
  have hp : separatorAt? (byte :: tail) = none := by
    rw [separatorAt?, hm _ _ (by decide), hm _ _ (by decide)]
    rfl
  have hclose : starts scriptClose (byte :: tail) = false := hm _ _ (by decide)
  have hopen : starts scriptOpen (byte :: tail) = false := hm _ _ (by decide)
  have hmark : starts scriptMark (byte :: tail) = false := hm _ _ (by decide)
  simp [step, hs, hclose, hopen, hmark, hd, hp]

theorem run_of_ge {high : List UInt8} (hs : bs.drop s.place = high ++ tail)
    (hb : ∀ byte ∈ high, 128 ≤ byte.toNat) :
    run bs s = run bs { s with place := s.place + high.length } := by
  induction high generalizing s with
  | nil => rfl
  | cons byte high ih =>
    obtain ⟨hb, hr⟩ := List.forall_mem_cons.mp hb
    have hd : bs.drop (s.place + 1) = high ++ tail := by
      rw [← List.drop_drop, hs]
      rfl
    rw [run_of_step (step_of_ge hs hb), Option.toList_none, List.nil_append, ih hd hr]
    simp only [List.length_cons, Nat.add_assoc, Nat.add_comm 1]

/-- A scan goes on behind a character of any length, if that of one byte would only change the depth
as the character does. -/
theorem run_char (hs : bs.drop s.place = encode (c :: r))
    (hd : 128 ≤ c.toNat → depth = s.depth)
    (h : step bs s = some (none, { s with depth, place := s.place + 1 })) :
    run bs s = run bs { s with depth, place := s.place + utf8Len [c] } := by
  have hl : utf8Len [c] = c.utf8Size := Nat.zero_add _
  rw [hl]
  rcases Nat.lt_or_ge c.toNat 128 with hc | hc
  · have hz : c.utf8Size = 1 :=
      Char.utf8Size_eq_one_iff.mpr (UInt32.le_iff_toNat_le.mpr (Nat.le_of_lt_succ hc))
    rw [run_of_step h, hz]
    rfl
  · rw [hd hc]
    rw [encode, List.flatMap_cons] at hs
    rw [run_of_ge hs fun byte hb => utf8EncodeChar_ge hc hb, String.length_utf8EncodeChar]

theorem cut?_cons {rule part : String} {range : Range} {ranges : List Range}
    {ps : List (Link × String)} (h : slice? rule range.start range.stop = some part)
    (hs : cut? rule ranges = some ps) :
    cut? rule (range :: ranges) = some ((range.link, part) :: ps) := by
  rw [cut?] at hs ⊢
  rw [List.mapM_cons, h, hs]
  rfl

theorem cut?_stop (pre rest : List Char) (link : Link) :
    cut? (String.ofList (pre ++ rest)) [⟨link, utf8Len pre, (encode (pre ++ rest)).length⟩] =
      some [(link, String.ofList rest)] := by
  refine cut?_cons ?_ rfl
  rw [length_encode]
  exact slice?_drop pre rest

/-- From a place in a piece of which `cur` has been scanned, a scan finds the pieces that `cur` and
the marks of the rest make up. -/
def Finds (text pre cur r : List Char) (link : Link) (depth : Nat) (script : Bool) : Prop :=
  cut? (String.ofList text)
      (run (encode text) ⟨utf8Len pre, link, depth, script, utf8Len (pre ++ cur)⟩) =
    some ((pieces link (cur.map .char ++ marks depth script r)).map fun p =>
      (p.1, String.ofList p.2))

variable {rest : List Char} {next : Link} {depth' : Nat} {script' : Bool}

theorem Finds.of_append (more : List Char)
    (hrun : run (encode text) ⟨utf8Len pre, link, depth, script, utf8Len (pre ++ cur)⟩ =
      run (encode text) ⟨utf8Len pre, link, depth', script', utf8Len (pre ++ cur) + utf8Len more⟩)
    (hm : marks depth script r = more.map .char ++ marks depth' script' rest)
    (h : Finds text pre (cur ++ more) rest link depth' script') :
    Finds text pre cur r link depth script := by
  rw [Finds, ← List.append_assoc, String.utf8Len_append, List.map_append, List.append_assoc] at h
  rw [Finds, hrun, hm, h]

theorem Finds.of_cut (ht : text = pre ++ cur ++ (next.spell ++ rest)) (hn : next ≠ .first)
    (hstep : step (encode text) ⟨utf8Len pre, link, 0, false, utf8Len (pre ++ cur)⟩ =
      some (some ⟨link, utf8Len pre, utf8Len (pre ++ cur)⟩,
        ⟨utf8Len (pre ++ cur) + 2, next, 0, false, utf8Len (pre ++ cur) + 2⟩))
    (hm : marks 0 false r = .cut next :: marks 0 false rest)
    (h : Finds text (pre ++ cur ++ next.spell) [] rest next 0 false) :
    Finds text pre cur r link 0 false := by
  have hl : utf8Len next.spell = 2 := by
    cases next with
    | first => exact absurd rfl hn
    | or => rfl
    | and => rfl
  rw [Finds, List.append_nil, String.utf8Len_append, hl, List.map_nil, List.nil_append] at h
  rw [Finds, run_of_step hstep, hm, pieces_cut]
  refine cut?_cons ?_ h
  rw [ht, String.utf8Len_append]
  exact slice?_append pre cur _

theorem Finds.of_stop (ht : text = pre ++ cur ++ r)
    (hstep : step (encode text) ⟨utf8Len pre, link, depth, script, utf8Len (pre ++ cur)⟩ = none)
    (hm : marks depth script r = r.map .char) : Finds text pre cur r link depth script := by
  rw [Finds, run_of_stop hstep, hm, ← List.map_append, pieces_chars, ht, List.append_assoc,
    cut?_stop]
  rfl

theorem Finds.of_char (ht : text = pre ++ cur ++ c :: r) (ho : ¬scriptOpen <+: c :: r)
    (hm : ¬(depth = 0 ∧ scriptMark <+: c :: r))
    (hs : braceDepth depth c = 0 → separator? (c :: r) = none)
    (h : Finds text pre (cur ++ [c]) r link (braceDepth depth c) false) :
    Finds text pre cur (c :: r) link depth false := by
  have hahead : (encode text).drop (utf8Len (pre ++ cur)) = encode (c :: r) := ht ▸ drop_encode _ _
  have hn : (if braceDepth depth c = 0 then separator? (c :: r) else none) = none := by
    split
    · next hd => exact hs hd
    · rfl
  have hstep := step_encode (s := ⟨utf8Len pre, link, depth, false, utf8Len (pre ++ cur)⟩) hahead
  rw [← List.isPrefixOf_iff_prefix] at ho hm
  simp only [ho, hm, hn, if_false, Bool.false_eq_true] at hstep
  rw [List.isPrefixOf_iff_prefix] at ho hm
  refine .of_append [c] (run_char hahead (fun hc => ?_) hstep) (marks_char ho hm hs) h
  -- a character of several bytes is no brace
  have hb {brace : Char} (hlt : brace.toNat < 128) : (c == brace) = false := by
    refine beq_eq_false_iff_ne.mpr ?_
    rintro rfl
    omega
  rw [braceDepth, hb (by decide), hb (by decide)]
  rfl

/-- What has been scanned of a piece, and what is still to be scanned, make up the pieces that are
cut out from here on. -/
theorem finds (pre cur : List Char) (link : Link) (ht : text = pre ++ cur ++ r) :
    Finds text pre cur r link depth script := by
  have hahead {pre cur r : List Char} (ht : text = pre ++ cur ++ r) :
      (encode text).drop (utf8Len (pre ++ cur)) = encode r := ht ▸ drop_encode _ _
  have hmore {pre cur more r : List Char} (ht : text = pre ++ cur ++ (more ++ r)) :
      text = pre ++ (cur ++ more) ++ r := by simpa using ht
  -- the scan stands behind `cur`, which is what it has passed of the piece that starts at `pre`
  fun_induction marks depth script r generalizing pre cur link with
  | case1 depth script =>
    refine .of_stop ht ?_ (by rw [marks]; rfl)
    simp only [step, hahead ht]
    rfl
  | case2 depth c r hp ih =>
    have hr := eq_append_of_isPrefixOf hp
    have hstep := step_encode (s := ⟨utf8Len pre, link, depth, true, utf8Len (pre ++ cur)⟩)
      (hahead ht)
    simp only [hp, if_true] at hstep
    refine .of_append scriptClose ?_ (hr ▸ marks_close depth _) (ih _ _ _ (hmore (hr ▸ ht)))
    rw [run_of_step hstep]
    rfl
  | case3 depth c r hp ih =>
    have hstep := step_encode (s := ⟨utf8Len pre, link, depth, true, utf8Len (pre ++ cur)⟩)
      (hahead ht)
    simp only [hp, if_true, if_false, Bool.false_eq_true] at hstep
    rw [List.isPrefixOf_iff_prefix] at hp
    exact .of_append [c] (run_char (hahead ht) (fun _ => rfl) hstep) (marks_inside hp)
      (ih _ _ _ (hmore ht))
  | case4 depth script c r hs hp ih =>
    obtain rfl : script = false := by simpa using hs
    have hr := eq_append_of_isPrefixOf hp
    have hstep := step_encode (s := ⟨utf8Len pre, link, depth, false, utf8Len (pre ++ cur)⟩)
      (hahead ht)
    simp only [hp, if_true, if_false, Bool.false_eq_true] at hstep
    refine .of_append scriptOpen ?_ (hr ▸ marks_open depth _) (ih _ _ _ (hmore (hr ▸ ht)))
    rw [run_of_step hstep]
    rfl
  | case5 depth script c r hs ho hm =>
    obtain rfl : script = false := by simpa using hs
    obtain ⟨rfl, hm⟩ := hm
    have hstep := step_encode (s := ⟨utf8Len pre, link, 0, false, utf8Len (pre ++ cur)⟩)
      (hahead ht)
    simp only [ho, hm, if_true, if_false, Bool.false_eq_true, and_self] at hstep
    have hr := eq_append_of_isPrefixOf hm
    exact .of_stop ht hstep (hr ▸ marks_scriptMark _)
  | case6 depth script c r hs ho hm hd next hl ih =>
    obtain rfl : script = false := by simpa using hs
    obtain ⟨hn, hr, hb⟩ := separator?_eq_some hl
    obtain rfl : depth = 0 := (hb depth).symm.trans hd
    have hm' : ¬scriptMark.isPrefixOf (c :: r) := fun h => hm ⟨rfl, h⟩
    have hstep := step_encode (s := ⟨utf8Len pre, link, 0, false, utf8Len (pre ++ cur)⟩)
      (hahead ht)
    simp only [ho, hm', hd, hl, if_true, if_false, Bool.false_eq_true, and_false] at hstep
    rw [List.isPrefixOf_iff_prefix] at ho hm
    exact .of_cut (hr ▸ ht) hn hstep (marks_cut ho hm hd hl) (ih _ _ _ (by rw [ht, hr]; simp))
  | case7 depth script c r hs ho hm hd hl ih =>
    obtain rfl : script = false := by simpa using hs
    rw [List.isPrefixOf_iff_prefix] at ho hm
    exact .of_char ht ho hm (fun _ => hl) (hd ▸ ih _ _ _ (hmore ht))
  | case8 depth script c r hs ho hm hd ih =>
    obtain rfl : script = false := by simpa using hs
    rw [List.isPrefixOf_iff_prefix] at ho hm
    exact .of_char ht ho hm (fun h => absurd h hd) (ih _ _ _ (hmore ht))

end Scan

/-- The pieces that are cut out are those of the rule, and no place at which it is cut is inside a
character. -/
theorem scan?_eq (text : String) :
    scan? text = some ((split text.toList).map fun p => (p.1, String.ofList p.2)) := by
  have h : Scan.Finds text.toList [] [] text.toList .first 0 false := Scan.finds [] [] .first rfl
  rwa [Scan.Finds, String.ofList_toList, ← bytes_ofList, String.ofList_toList] at h

/-- Whatever a text is, nothing is sliced out of it inside a character or beyond its ends: not when
it is split as a rule, not when it is read as a path, and not when a mark is taken off it. Each
round of the two scans starts at a byte of the text, and it ends the scan or goes on behind that
byte. -/
theorem scans (mark text : String) :
    (scan? text = some ((split text.toList).map fun p => (p.1, String.ofList p.2)) ∧
      ∀ (s next : Scan) (range : Option Range), Scan.step (bytes text) s = some (range, next) →
        s.place < text.utf8ByteSize ∧ s.place < next.place) ∧
    (Json.Path.scan? text = some (Json.Path.parse text) ∧
      ∀ (i next : Nat) (segment : Json.Segment), i < text.utf8ByteSize →
        Json.Path.round? text i = some (.ok (segment, next)) → i < next) ∧
    dropMark? mark text =
      some ((dropStartAnyCase? (mark.toList.map Char.toLower) text.toList).map String.ofList) := by
  refine ⟨⟨scan?_eq text, fun s next range h => ?_⟩, ⟨Json.Path.scan?_eq text, ?_⟩,
    dropMark?_eq mark text⟩
  · rw [← length_bytes]
    exact Scan.step_lt h
  · exact fun i next segment hi h => Json.Path.lt_of_round? h hi

/-- The `é` is two bytes long: the piece ends before byte 2, and the name is read from byte 0 on. -/
theorem scans_accents :
    (Scan.step (bytes "é||ü") ⟨0, .first, 0, false, 2⟩ =
        some (some ⟨.first, 0, 2⟩, ⟨4, .or, 0, false, 4⟩) ∧ 2 < 4) ∧
      (Json.Path.round? "é||ü" 0 = some (.ok (.key "é||ü", 6)) ∧ 0 < 6) := by
  have hstep : Scan.step (bytes "é||ü") ⟨0, .first, 0, false, 2⟩ =
      some (some ⟨.first, 0, 2⟩, ⟨4, .or, 0, false, 4⟩) := by rfl
  have hround : Json.Path.round? "é||ü" 0 = some (.ok (.key "é||ü", 6)) := by rfl
  obtain ⟨⟨-, hs⟩, ⟨-, hp⟩, -⟩ := scans "@css:" "é||ü"
  exact ⟨⟨hstep, (hs _ _ _ hstep).2⟩, hround, hp _ _ _ (by decide) hround⟩

end Catalog.Rule
