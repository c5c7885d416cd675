import Mathlib.Data.List.Basic
import Mathlib.Data.List.Induction
import Mathlib.Data.List.Nodup

/-! Lists merged from several lines, and what can be read off each line.

Sources that travel on separate lines may arrive in any mixture. When every line arrives
in its own order, the mixture as a whole can be traced back to the sources.
-/

set_option autoImplicit false

namespace Rsp.Foundation

open scoped List

variable {Line Item Value Source : Type}

theorem prefix_next {Entry : Type} {first whole : List Entry} {entry : Entry} {value : Entry → Value} {wanted : Value}
    (begins : first <+: whole) (next : (first.map value) ++ [wanted] <+: whole.map value)
    (at_end : whole[first.length]? = some entry) : first ++ [entry] <+: whole ∧ value entry = wanted := by
  obtain ⟨rest, rfl⟩ := begins
  cases rest with
  | nil => simp at at_end
  | cons head tail =>
    simp only [List.getElem?_append_right (Nat.le_refl _), Nat.sub_self, List.getElem?_cons_zero,
      Option.some.injEq] at at_end
    subst at_end
    rw [List.map_append, List.prefix_append_right_inj, List.map_cons, List.cons_prefix_cons] at next
    exact ⟨⟨tail, by simp⟩, next.1.symm⟩

/-- A mixture that shows the beginning of every line is read off the sources themselves. -/
theorem exists_sources [DecidableEq Line] (line : Source → Line) (value : Source → Value) (sources : List Source)
    (merged : List (Line × Value))
    (each : ∀ here, (merged.filter fun entry => entry.1 = here).map Prod.snd <+:
      (sources.filter fun source => line source = here).map value) :
    ∃ read : List Source, read.map (fun source => (line source, value source)) = merged ∧
      ∀ here, read.filter (line · = here) <+: sources.filter (line · = here) := by
  -- From the end of the mixture: its last entry is the next source of its line.
  induction merged using List.reverseRecOn with
  | nil => exact ⟨[], rfl, fun here => List.nil_prefix⟩
  | append_singleton earlier last ih =>
    obtain ⟨here, wanted⟩ := last
    have shorter : ∀ other, (earlier.filter fun entry => entry.1 = other).map Prod.snd <+:
        (sources.filter fun source => line source = other).map value := by
      intro other
      refine List.IsPrefix.trans ?_ (each other)
      rw [List.filter_append, List.map_append]
      exact List.prefix_append _ _
    obtain ⟨read, same, begins⟩ := ih shorter
    have shown : (read.filter (line · = here)).map value = (earlier.filter fun entry => entry.1 = here).map Prod.snd := by
      rw [← same, List.filter_map, List.map_map]
      rfl
    have next := each here
    rw [List.filter_append, List.map_append, ← shown] at next
    simp only [List.filter_cons, List.filter_nil, decide_true, if_true, List.map_cons, List.map_nil] at next
    have bound : (read.filter (line · = here)).length < (sources.filter (line · = here)).length := by
      apply Nat.lt_of_succ_le
      simpa using next.length_le
    obtain ⟨longer, carries⟩ := prefix_next (begins here) next (List.getElem?_eq_getElem bound)
    have placed : line (sources.filter (line · = here))[(read.filter (line · = here)).length] = here := by
      simpa using (List.mem_filter.mp (List.getElem_mem bound)).2
    refine ⟨read ++ [(sources.filter (line · = here))[(read.filter (line · = here)).length]], ?_, fun other => ?_⟩
    · simp [same, placed, carries]
    · rw [List.filter_append]
      by_cases mine : here = other
      · subst mine
        simpa [placed] using longer
      · simpa [placed, mine] using begins other

/-- The marked entries of a list carry the values of some sources, in order: each entry gets
the source it carries. -/
theorem exists_labels (marked : Item → Bool) (carried : Item → Value) (value : Source → Value) {entries : List Item}
    {sources : List Source} (same : (entries.filter marked).map carried = sources.map value) :
    ∃ labels : List (Item × Option Source), labels.map Prod.fst = entries ∧ labels.filterMap Prod.snd = sources ∧
      ∀ label ∈ labels, (label.2 = none ∧ marked label.1 = false) ∨
        ∃ source, label.2 = some source ∧ carried label.1 = value source := by
  induction entries generalizing sources with
  | nil =>
    obtain rfl : sources = [] := by simpa using same.symm
    exact ⟨[], rfl, rfl, by simp⟩
  | cons entry rest ih =>
    cases isMarked : marked entry with
    | false =>
      obtain ⟨labels, items, labelled, carry⟩ := ih (by simpa [isMarked] using same)
      refine ⟨(entry, none) :: labels, by simp [items], by simp [labelled], fun label mem => ?_⟩
      rcases List.mem_cons.mp mem with rfl | mem
      · exact .inl ⟨rfl, isMarked⟩
      · exact carry label mem
    | true =>
      cases sources with
      | nil => simp [isMarked] at same
      | cons source others =>
        simp only [List.filter_cons, isMarked, if_true, List.map_cons, List.cons.injEq] at same
        obtain ⟨labels, items, labelled, carry⟩ := ih same.2
        refine ⟨(entry, some source) :: labels, by simp [items], by simp [labelled], fun label mem => ?_⟩
        rcases List.mem_cons.mp mem with rfl | mem
        · exact .inr ⟨source, rfl, same.1⟩
        · exact carry label mem

/-- Two parts of one list without repetitions agree on the order of what both hold. -/
theorem same_order {second whole : List Item} (once : whole.Nodup) {a b : Item} (ordered : [a, b] <+ whole)
    (part : second <+ whole) (memA : a ∈ second) (memB : b ∈ second) : [a, b] <+ second := by
  induction whole generalizing second with
  | nil => cases ordered
  | cons head rest ih =>
    obtain ⟨fresh, once⟩ := List.nodup_cons.mp once
    cases ordered with
    | cons _ ordered =>
      have inRest : a ∈ rest ∧ b ∈ rest := ⟨ordered.subset (by simp), ordered.subset (by simp)⟩
      cases part with
      | cons _ part => exact ih once ordered part memA memB
      | cons_cons _ part =>
        rcases List.mem_cons.mp memA with rfl | memA
        · exact absurd inRest.1 fresh
        · rcases List.mem_cons.mp memB with rfl | memB
          · exact absurd inRest.2 fresh
          · exact (ih once ordered part memA memB).cons _
    | cons_cons _ tail =>
      have later : b ∈ rest := tail.subset (by simp)
      cases part with
      | cons _ part => exact absurd (part.subset memA) fresh
      | cons_cons _ part =>
        rcases List.mem_cons.mp memB with rfl | memB
        · exact absurd later fresh
        · exact (List.singleton_sublist.mpr memB).cons_cons _

end Rsp.Foundation
