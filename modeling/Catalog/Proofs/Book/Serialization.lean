import Catalog.Book.Basic
import Catalog.Proofs.Json.Record
import Catalog.Proofs.Text.Cut

/-! # Sources and books that are printed and read back

Printed as JSON, sources and books are read back as they were: every field has a name of its own
under which its value is found, and a field that is left out reads as what it was left out for.
-/

namespace Catalog

open Json (Value Written)

theorem whole_optionalTexts (names : List String) (texts : List (Option String)) :
    (Value.object (names.zip (texts.map Value.ofOption))).Whole := by
  refine Json.wholeMembers_iff.mpr fun m hm => ?_
  obtain ⟨t, -, ht⟩ := List.mem_map.mp (List.of_mem_zip hm).2
  exact ht ▸ Value.whole_ofOption t

theorem optionalTexts_read {names : List String} (texts : List (Option String))
    (hn : names.Nodup) (hl : names.length = texts.length) :
    ∃ fields, Written.fields? 0 names
        (Value.object (names.zip (texts.map Value.ofOption))).written = some fields ∧
      fields.mapM (Written.orDefault none Written.optionalText?) = some texts := by
  have hl : names.length = ((texts.map Value.ofOption).map some).length := by simpa using hl
  have hf := Written.fields?_given 0 _ hn hl
  rw [← Json.zip_eq_givenMembers, List.map_map, List.map_map] at hf
  exact ⟨_, hf, Written.mapM_optionalText? texts⟩

namespace ListProfile

@[simp]
theorem whole_toJson (p : ListProfile) : p.toJson.Whole := whole_optionalTexts fieldNames p.rules

@[simp]
theorem ofWritten?_toJson (p : ListProfile) : ofWritten? p.toJson.written = some p := by
  obtain ⟨fields, hf, ht⟩ := optionalTexts_read p.rules (by decide : fieldNames.Nodup) rfl
  simp only [ofWritten?, toJson, hf, ht, Option.bind_eq_bind, Option.bind_some]
  rfl

end ListProfile

namespace InfoProfile

@[simp]
theorem whole_toJson (p : InfoProfile) : p.toJson.Whole := whole_optionalTexts fieldNames p.rules

@[simp]
theorem ofWritten?_toJson (p : InfoProfile) : ofWritten? p.toJson.written = some p := by
  obtain ⟨fields, hf, ht⟩ := optionalTexts_read p.rules (by decide : fieldNames.Nodup) rfl
  simp only [ofWritten?, toJson, hf, ht, Option.bind_eq_bind, Option.bind_some]
  rfl

end InfoProfile

namespace SourceKind

theorem tag_bounds (k : SourceKind) : -2147483648 ≤ k.tag ∧ k.tag ≤ 2147483647 := by
  cases k <;> decide

theorem int32?_tag (k : SourceKind) :
    (Value.number (.int k.tag)).written.int32? = some (.ofInt k.tag) :=
  Written.int32?_ofInt k.tag_bounds.1 k.tag_bounds.2

theorem ofTag_ofInt_tag (k : SourceKind) : ofTag (Int32.ofInt k.tag).toInt = k := by
  rw [Int32.toInt_ofInt_of_le k.tag_bounds.1 (Int.lt_add_one_of_le k.tag_bounds.2), ofTag_tag]

end SourceKind

namespace Source

theorem whole_toJson (s : Source) : s.toJson.Whole := by
  refine Json.wholeMembers_iff.mpr fun m hm => ?_
  have hv := (List.of_mem_zip hm).2
  simp only [List.mem_cons, List.not_mem_nil, or_false] at hv
  rcases hv with h | h | h | h | h | h | h | h <;> simp [h]

/-- A printed source is read as it was. -/
theorem ofWritten?_toJson (s : Source) : ofWritten? s.toJson.written = some s := by
  have hf := Written.fields?_given 0 (([.string s.url, .string s.name, .number (.int s.kind.tag),
      .number (.int s.order.toInt), .ofOption s.bookUrlPattern, s.search.toJson, s.explore.toJson,
      s.info.toJson] : List Value).map some) (by decide : fieldNames.Nodup) rfl
  rw [← Json.zip_eq_givenMembers] at hf
  -- what is bound is rewritten where it stands, after which the binds compute
  rw [ofWritten?, toJson, hf, Option.bind_eq_bind, Option.bind_some]
  simp only [List.map_cons, List.map_nil, Option.map_some, Written.orDefault_some,
    Written.text?_string, SourceKind.int32?_tag, SourceKind.ofTag_ofInt_tag, Written.int32?_toInt,
    Written.optionalText?_ofOption, ListProfile.ofWritten?_toJson, InfoProfile.ofWritten?_toJson]
  rfl

theorem ofText_toText (s : Source) : ofText s.toJson.toText = .ok s := by
  simp only [ofText, Written.parse?_toText s.whole_toJson, Option.bind_some, ofWritten?_toJson]

end Source

theorem head?_trimStart_toText {v : Value} {c : Char} {r : List Char} (h : v.render = c :: r)
    (hc : Text.isBlank c = false) : (Text.trimStart v.toText.toList).head? = some c := by
  have hh : ∀ d, v.render.head? = some d → Text.isBlank d = false := by
    rintro d hd
    rw [h] at hd
    cases hd
    exact hc
  rw [Value.toText, String.toList_ofList, Text.trimStart_of_head hh, h]
  rfl

namespace Source

theorem listOfText_toText (s : Source) : listOfText s.toJson.toText = .ok [s] := by
  have hh : (Text.trimStart s.toJson.toText.toList).head? = some '\x7b' :=
    head?_trimStart_toText rfl (by decide)
  rw [listOfText, hh, if_neg (by decide), ofText_toText]
  rfl

theorem listOfText_array (sources : List Source) :
    listOfText (Value.array (sources.map toJson)).toText = .ok sources := by
  have hh : (Text.trimStart (Value.array (sources.map toJson)).toText.toList).head? = some '[' :=
    head?_trimStart_toText rfl (by decide)
  have hw : (Value.array (sources.map toJson)).Whole := by
    refine Json.wholeItems_iff.mpr fun v hv => ?_
    obtain ⟨s, -, rfl⟩ := List.mem_map.mp hv
    exact s.whole_toJson
  have hm : ((sources.map toJson).map Value.written).mapM ofWritten? = some sources := by
    rw [List.mapM_map, List.mapM_map]
    refine (mapM_eq_pure_map fun s _ => ?_).trans (congrArg some (List.map_id sources))
    exact s.ofWritten?_toJson
  rw [listOfText, hh, if_pos rfl, Written.parse?_toText hw]
  simp only [Value.written, Json.writtenItems_eq_map, hm]

end Source

namespace Book

def fieldValues (b : Book) : List (Option Value) :=
  [some (.string b.name), some (.string b.author), some (.string b.bookUrl),
    some (.string b.origin), some (.string b.originName),
    some (.number (.int b.originOrder.toInt)), some (.number (.int b.kindOfSource.tag)),
    some (.ofOption b.coverUrl), some (.ofOption b.intro), some (.ofOption b.kind),
    some (.ofOption b.wordCount), some (.ofOption b.latestChapterTitle),
    if b.vars.isEmpty then none
      else some (.object (b.vars.entries.map fun e => (e.1, .string e.2))),
    b.infoHtml.map .string]

theorem toJson_eq (b : Book) :
    b.toJson = .object (Json.givenMembers fieldNames b.fieldValues) := by
  unfold toJson fieldValues
  cases b.vars.isEmpty <;> cases b.infoHtml <;> rfl

theorem whole_toJson (b : Book) : b.toJson.Whole := by
  have hv (v : Value) (h : some v = if b.vars.isEmpty then none
      else some (.object (b.vars.entries.map fun e => (e.1, .string e.2)))) : v.Whole := by
    split at h
    · cases h
    · cases h
      exact Value.whole_strings b.vars.entries
  have hi (v : Value) (h : some v = b.infoHtml.map .string) : v.Whole := by
    obtain ⟨page, -, rfl⟩ := Option.map_eq_some_iff.mp h.symm
    trivial
  rw [toJson_eq]
  refine Json.whole_givenMembers fun v h => ?_
  simp only [fieldValues, List.mem_cons, List.not_mem_nil, or_false, Option.some.injEq] at h
  rcases h with rfl | rfl | rfl | rfl | rfl | rfl | rfl | rfl | rfl | rfl | rfl | rfl | h | h
  rotate_right 2
  · exact hv v h
  · exact hi v h
  all_goals simp

theorem ofWritten?_toJson (b : Book) : ofWritten? b.toJson.written = some b := by
  have hf := Written.fields?_given 12 b.fieldValues (by decide : fieldNames.Nodup) rfl
  rw [← toJson_eq] at hf
  have hv : (Written.orDefault [] Written.textMap? <| (if b.vars.isEmpty then none
      else some (Value.object (b.vars.entries.map fun e => (e.1, .string e.2)))).map
        Value.written) = some b.vars.entries := by
    split
    · rename_i he
      exact congrArg some (List.isEmpty_iff.mp he).symm
    · exact Written.textMap?_strings _
  have hi : Written.orDefault none Written.optionalText?
      ((b.infoHtml.map Value.string).map Value.written) = some b.infoHtml := by
    cases b.infoHtml with
    | none => rfl
    | some page => exact Written.optionalText?_ofOption (some page)
  -- what is bound is rewritten where it stands, after which the binds compute
  rw [ofWritten?, hf, Option.bind_eq_bind, Option.bind_some]
  simp only [fieldValues, List.map_cons, List.map_nil, Option.map_some, Option.bind_some,
    Written.orDefault_some, Written.text?_string, Written.int32?_toInt, SourceKind.int32?_tag,
    Written.optionalText?_ofOption, hv, hi]
  change some { b with
    kindOfSource := .ofTag (Int32.ofInt b.kindOfSource.tag).toInt
    vars := .ofList b.vars.entries } = some b
  rw [SourceKind.ofTag_ofInt_tag, Variables.ofList_entries]

theorem ofText_toText (b : Book) : ofText b.toJson.toText = .ok b := by
  simp only [ofText, Written.parse?_toText b.whole_toJson, Option.bind_some, ofWritten?_toJson]

theorem name_mem_toJson (b : Book) :
    ∃ members, b.toJson = .object members ∧
      ("variable" ∈ members.map Prod.fst ↔ b.vars.isEmpty = false) ∧
      ("infoHtml" ∈ members.map Prod.fst ↔ b.infoHtml.isSome) := by
  refine ⟨_, rfl, ?_, ?_⟩ <;>
    cases b.vars.isEmpty <;> cases b.infoHtml <;> simp

end Book

/-- What is printed is read back. A source is read from its text as it was, as the only one of a
list too, and so are all sources of an array. A book is read from its text as it was, though its
variables and its page are left out of the text where there are none. -/
theorem ofText_toJson_toText :
    (∀ s : Source, Source.ofText s.toJson.toText = .ok s ∧
      Source.listOfText s.toJson.toText = .ok [s]) ∧
    (∀ sources : List Source,
      Source.listOfText (Value.array (sources.map Source.toJson)).toText = .ok sources) ∧
    ∀ b : Book, Book.ofText b.toJson.toText = .ok b ∧
      ∃ members, Written.parse? b.toJson.toText.toList = some (.object members) ∧
        (some "variable".toList ∈ members.map Prod.fst ↔ b.vars.isEmpty = false) ∧
        (some "infoHtml".toList ∈ members.map Prod.fst ↔ b.infoHtml.isSome) := by
  refine ⟨fun s => ⟨s.ofText_toText, s.listOfText_toText⟩, Source.listOfText_array,
    fun b => ⟨b.ofText_toText, ?_⟩⟩
  obtain ⟨members, hb, hv, hi⟩ := b.name_mem_toJson
  refine ⟨Json.writtenMembers members, ?_, Json.name_mem_writtenMembers.trans hv,
    Json.name_mem_writtenMembers.trans hi⟩
  rw [Written.parse?_toText b.whole_toJson, hb]
  rfl

end Catalog
