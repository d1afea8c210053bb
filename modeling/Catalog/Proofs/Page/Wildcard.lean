import Catalog.Proofs.Json.Path
import Catalog.Proofs.Page.Enumeration

/-! # A list and its items

A path that selects one array stands for the items of the array. So does the path that goes on with
a wildcard, as long as the only item is not an array itself: that one is taken apart again.
-/

namespace Catalog

open Json

theorem map_json_ne (items : List Value) : items.map Handle.json ≠ [.json (.array items)] := by
  intro h
  obtain ⟨v, rfl, hv⟩ := List.map_eq_singleton_iff.mp h
  have hs := congrArg sizeOf (Handle.json.inj hv)
  simp at hs
  omega

namespace Page

variable {p : Page} {d d' : Dialect} {path : String} {items : List Value}

/-- Nodes are the values that are selected, or the items of a single array. -/
theorem run_queryNodes_json {v : Value} (ht : p.target = .ok (.json v)) (hd : PathDialect d)
    (hn : path ≠ "") (hu : Variables.Unreferenced path.toList) {q : Path}
    (hq : Path.parse path = .ok q) (vars : Variables) :
    (p.queryNodes ⟨[.plain d path]⟩).run vars = (.ok (Target.unpack (q.select v)), vars) := by
  have hr := nodes_json ht hd hn vars
  rw [expand_of_unreferenced hu, hq] at hr
  exact (run_queryNodes rfl).trans (congrArg (·, vars) hr)

theorem parse_wildcard : Path.parse "[*]" = .ok ⟨[.wildcard]⟩ := by decide +kernel

/-- A list and its wildcard are the same nodes, the items of the list, exactly if the list is not a
single array in an array. -/
theorem queryNodes_wildcard {v : Value} (ht : p.target = .ok (.json v)) (hd : PathDialect d)
    (hd' : PathDialect d') (hn : path ≠ "") (htrim : trimmed path = path)
    (hu : Variables.Unreferenced path.toList)
    (hs : (Path.parse path).map (·.select v) = .ok [.array items]) (vars : Variables) :
    let nodes := (p.queryNodes ⟨[.plain d path]⟩).run vars
    let itemNodes := (p.queryNodes ⟨[.plain d' (path ++ "[*]")]⟩).run vars
    nodes = (.ok (items.map .json), vars) ∧
      (itemNodes = nodes ↔ ∀ inner, items ≠ [.array inner]) ∧
      ∀ inner, items = [.array inner] → itemNodes = (.ok (inner.map .json), vars) := by
  intro nodes itemNodes
  obtain ⟨q, hq, hv⟩ := Error.ok_of_map_ok hs
  have htrim : Text.trimEnd path.toList = path.toList := by
    have ht := congrArg String.toList htrim
    rw [trimmed, String.toList_ofList] at ht
    exact Text.trimEnd_of_getLast (Text.trimmed_iff.mpr ht).2
  have hq' : Path.parse (path ++ "[*]") = .ok ⟨q.segments ++ [.wildcard]⟩ :=
    Path.parse_append hq htrim parse_wildcard ⟨'[', rfl, rfl⟩
  have hv' : Path.select ⟨q.segments ++ [.wildcard]⟩ v = items := by
    rw [Path.select, Path.selectAll_append, ← Path.select, hv]
    simp [Path.selectAll, Segment.select]
  have hu' : Variables.Unreferenced (path ++ "[*]").toList := by
    rw [String.toList_append]
    exact hu.append (by decide)
  have hnodes : nodes = (.ok (items.map .json), vars) := by
    rw [show nodes = _ from run_queryNodes_json ht hd hn hu hq vars, hv]
    rfl
  have hitems : itemNodes = (.ok (Target.unpack items), vars) := by
    rw [show itemNodes = _ from run_queryNodes_json ht hd' (by simp) hu' hq' vars, hv']
  refine ⟨hnodes, ⟨?_, fun hi => ?_⟩, ?_⟩
  -- an array of one array would have to be an item of itself
  · rintro he inner rfl
    rw [hitems, hnodes] at he
    exact map_json_ne inner (Except.ok.inj (Prod.mk.inj he).1)
  · have hunpack : Target.unpack items = items.map .json := by
      unfold Target.unpack
      split
      · next inner => exact absurd rfl (hi inner)
      · rfl
    rw [hitems, hunpack, hnodes]
  · rintro inner rfl
    exact hitems

/-- A table of two rows. -/
theorem queryNodes_wildcard_rows :
    let rows : List Value := [.array [.string "a", .string "b"], .array [.string "c"]]
    let p : Page := ⟨"u", some (.json (.object [("rows", .array rows)])), .page⟩
    (Path.parse "$.rows").map (·.select (.object [("rows", .array rows)])) = .ok [.array rows] ∧
      (∀ inner, rows ≠ [.array inner]) ∧ ∀ vars,
        (p.queryNodes ⟨[.plain .jsonPath "$.rows"]⟩).run vars = (.ok (rows.map .json), vars) ∧
        (p.queryNodes ⟨[.plain .jsonPath "$.rows[*]"]⟩).run vars = (.ok (rows.map .json), vars) := by
  intro rows p
  have hp : Path.parse "$.rows" = .ok ⟨[.key "rows"]⟩ := by decide +kernel
  have hs : (Path.parse "$.rows").map (·.select (.object [("rows", .array rows)])) =
      .ok [.array rows] := by
    rw [hp]
    rfl
  have hi : ∀ inner, rows ≠ [.array inner] := by simp [rows]
  refine ⟨hs, hi, fun vars => ?_⟩
  obtain ⟨hn, hw, -⟩ := queryNodes_wildcard (p := p) rfl (.inr rfl) (.inr rfl) (by decide)
    (by decide +kernel) (.of_notMem (by decide)) hs vars
  exact ⟨hn, (hw.mpr hi).trans hn⟩

/-- Of a table of one row the wildcard finds the cells, while the table itself stands for the row. -/
theorem queryNodes_wildcard_cells :
    let row : Value := .array [.string "a", .string "b"]
    let p : Page := ⟨"u", some (.json (.array [row])), .page⟩
    (Path.parse "$").map (·.select (.array [row])) = .ok [.array [row]] ∧
      (p.queryNodes ⟨[.plain .jsonPath "$"]⟩).run .empty = (.ok [.json row], .empty) ∧
      (p.queryNodes ⟨[.plain .jsonPath "$[*]"]⟩).run .empty =
        (.ok [.json (.string "a"), .json (.string "b")], .empty) := by
  intro row p
  have ht : p.target = .ok (.json (.array [row])) := rfl
  have hw : Path.parse "$[*]" = .ok ⟨[.wildcard]⟩ := by decide +kernel
  refine ⟨by rw [parse_root]; rfl, ?_, ?_⟩
  · exact run_queryNodes_json ht (.inr rfl) (by decide) (.of_notMem (by decide)) parse_root _
  · exact run_queryNodes_json ht (.inr rfl) (by decide) (.of_notMem (by decide)) hw _

end Page

end Catalog
