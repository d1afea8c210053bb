import Catalog.Proofs.Rule.Fragment
import Catalog.Proofs.Rule.Split

/-! # Reading undoes writing

A chain that was written as the text of a rule is the chain of that rule.
-/

namespace Catalog.Rule

open Text

/-- Pieces that were written are read in order. -/
theorem readPieces_spell {fs : List Fragment} (h : ∀ f ∈ fs, f.Printable) :
    readPieces true (fs.map fun f => (f.link, f.spell)) = .ok fs := by
  induction fs with
  | nil => rfl
  | cons f fs ih =>
    have hf := readFragment_spell (h f List.mem_cons_self) f.link
    have hr := ih fun g hg => h g (List.mem_cons_of_mem f hg)
    rw [List.map_cons, readPieces]
    simp only [if_true, hf, hr]
    rfl

/-- Resolving undoes writing. -/
theorem resolve_print {c : Chain} (h : c.Printable) : resolve c.print = .ok c := by
  obtain ⟨f, rest, hc, hf, hl⟩ := h.links
  have hp : ∀ g ∈ rest, g.Printable := fun g hg =>
    h.fragments g (hc ▸ List.mem_cons_of_mem f hg)
  have hfirst : f.Printable := h.fragments f (hc ▸ List.mem_cons_self)
  have hs : split c.print.toList = (.first, f.spell) :: rest.map fun g => (g.link, g.spell) := by
    rw [Chain.print, String.toList_ofList, hc, List.flatMap_cons, hf]
    exact pieces_marks .first hfirst hp hl
  have hread := readFragment_spell hfirst .first
  rw [resolve, hs, readPieces]
  simp only [Bool.false_eq_true, if_false, hread, readPieces_spell hp]
  change Except.ok (Chain.ofFragments ({ f with link := .first } :: rest)) = .ok c
  rw [Chain.ofFragments, ← hf, ← hc]

theorem isScriptTag_of_length {s u : List Char} (hs : s.length < 4) (h : u <:+: s) :
    isScriptTag scriptOpen u = false := by
  rw [isScriptTag, beq_eq_false_iff_ne]
  intro he
  have hl : u.length = 4 := by simpa [scriptOpen] using congrArg List.length he
  have hu : u.length ≤ s.length := h.length_le
  omega

theorem resolve_print_script : ∃ p, Pattern.compile? "x" = some p ∧
    let c : Chain := ⟨[⟨.default, "a", .first, [], some ⟨p, "y", true⟩⟩,
      ⟨.script, "b||c", .or, [], none⟩, ⟨.css, "d", .and, [], none⟩]⟩
    c.Printable ∧ c.print = "a##x##y###||<js>b||c</js>&&@css:d" ∧ resolve c.print = .ok c := by
  have hsome : (Pattern.compile? "x").isSome = true := by decide +kernel
  obtain ⟨p, hp⟩ := Option.isSome_iff_exists.mp hsome
  have hs : p.source = "x" := Pattern.source_of_compile? hp
  have ha : QueryText "a".toList := ⟨by decide, by decide, by decide, by decide, fun _ =>
    isScriptTag_of_length (by decide)⟩
  have hd : QueryText "d".toList := ⟨by decide, by decide, by decide, by decide, fun _ =>
    isScriptTag_of_length (by decide)⟩
  have hu : Undialected "a".toList :=
    ⟨by decide, by decide, by decide, by decide, by decide, by decide, by decide, by decide⟩
  have hj : ScriptText "b||c".toList :=
    ⟨by decide, by decide, by decide, putFree_of_not_mem (by decide)⟩
  have hy : Plain "y".toList := by decide
  have hr : Replacement.Printable ⟨p, "y", true⟩ :=
    ⟨by rw [hs]; exact hp, by rw [hs]; decide, by rw [hs]; decide, by rw [hs]; decide, hy,
      fun h => Bool.noConfusion h, fun h => Bool.noConfusion h⟩
  have hfirst : Fragment.Printable ⟨.default, "a", .first, [], some ⟨p, "y", true⟩⟩ := by
    refine ⟨rfl, fun h => Dialect.noConfusion h, fun _ => ha, fun _ => hu, ?_, ?_, ?_⟩
    · intro r h
      exact Option.some.inj h ▸ hr
    all_goals simp [Fragment.spell, Fragment.spellEnd, Replacement.spell, hs]
  have hscript : Fragment.Printable ⟨.script, "b||c", .or, [], none⟩ :=
    ⟨rfl, fun _ => ⟨hj, rfl⟩, fun h => absurd rfl h, fun h => Dialect.noConfusion h,
      fun r h => absurd h.symm (Option.some_ne_none r), by decide, by decide⟩
  have hcss : Fragment.Printable ⟨.css, "d", .and, [], none⟩ :=
    ⟨rfl, fun h => Dialect.noConfusion h, fun _ => hd, fun h => Dialect.noConfusion h,
      fun r h => absurd h.symm (Option.some_ne_none r), by decide, by decide⟩
  have hc : Chain.Printable ⟨[⟨.default, "a", .first, [], some ⟨p, "y", true⟩⟩,
      ⟨.script, "b||c", .or, [], none⟩, ⟨.css, "d", .and, [], none⟩]⟩ := by
    refine ⟨?_, _, _, rfl, rfl, by simp⟩
    simp only [List.forall_mem_cons]
    exact ⟨hfirst, hscript, hcss, fun _ h => absurd h List.not_mem_nil⟩
  refine ⟨p, hp, hc, ?_, resolve_print hc⟩
  simp only [Chain.print, Fragment.spell, Fragment.spellEnd, Replacement.spell,
    List.flatMap_cons, List.flatMap_nil, Option.elim_some, hs]
  rfl

end Catalog.Rule
