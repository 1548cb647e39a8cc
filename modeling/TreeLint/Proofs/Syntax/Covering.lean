import Mathlib.Order.Defs.LinearOrder
import Mathlib.Order.Lattice
import TreeLint.Syntax.Span

/-!
# Positions in order, and spans that cover others

Positions are in a linear order: by line, then by column. Characters lead forward in it. The span
over some spans runs from the least start to the greatest stop, so it does not matter in which order
the spans are taken. If the spans stand in a row, these are the start of the first one and the stop
of the last one.

**Results.**
* `Position.le_after`: a text leads forward.
* `Span.coverAll?_perm`: the span over some spans does not depend on their order.
* `Span.InRow.coverAll?_eq`: the span over spans in a row.
* `Span.InRow.frames`: the last spans of a row may be replaced by the span over them.
-/

namespace TreeLint
namespace Syntax

namespace Position

theorem before_iff {a b : Position} :
    a.before b = true ↔ a.line < b.line ∨ a.line = b.line ∧ a.column < b.column := by
  simp [before]

theorem before_eq_false_iff {a b : Position} :
    a.before b = false ↔ b.line < a.line ∨ b.line = a.line ∧ b.column ≤ a.column := by
  rw [← Bool.not_eq_true, before_iff]
  omega

/-- Positions are ordered by line, then by column. -/
instance : LinearOrder Position where
  le a b := b.before a = false
  lt a b := a.before b = true
  le_refl a := before_eq_false_iff.mpr (by omega)
  le_trans a b c hab hbc := by
    rw [before_eq_false_iff] at hab hbc ⊢
    omega
  lt_iff_le_not_ge a b := by
    rw [Bool.not_eq_false, before_iff, before_eq_false_iff]
    omega
  le_antisymm a b hab hba := by
    rw [before_eq_false_iff] at hab hba
    rw [Position.mk.injEq]
    omega
  le_total a b := by
    rw [before_eq_false_iff, before_eq_false_iff]
    omega
  toDecidableLE a b := inferInstanceAs (Decidable (b.before a = false))
  toDecidableLT a b := inferInstanceAs (Decidable (a.before b = true))
  toDecidableEq := inferInstance

theorem lt_iff {a b : Position} : a < b ↔ a.line < b.line ∨ a.line = b.line ∧ a.column < b.column :=
  before_iff

theorem le_iff {a b : Position} : a ≤ b ↔ a.line < b.line ∨ a.line = b.line ∧ a.column ≤ b.column :=
  before_eq_false_iff

theorem earlier_eq_min (a b : Position) : a.earlier b = min a b := by
  rw [earlier]
  split
  · rename_i h
    exact (min_eq_right (le_of_lt h)).symm
  · rename_i h
    exact (min_eq_left (Bool.eq_false_iff.mpr h)).symm

theorem later_eq_max (a b : Position) : a.later b = max a b := by
  rw [later]
  split
  · rename_i h
    exact (max_eq_left (le_of_lt h)).symm
  · rename_i h
    exact (max_eq_right (Bool.eq_false_iff.mpr h)).symm

theorem le_afterChar (p : Position) (c : Char) : p ≤ p.afterChar c := by
  rw [afterChar, le_iff]
  split
  · exact .inl (Nat.lt_succ_self _)
  · exact .inr ⟨rfl, Nat.le_succ _⟩

/-- A text leads forward. -/
theorem le_after (text : List Char) : ∀ p : Position, p ≤ p.after text := by
  induction text with
  | nil => exact fun p => le_refl p
  | cons c text ih => exact fun p => le_trans (p.le_afterChar c) (ih (p.afterChar c))

end Position

namespace Span

/-- The span over two spans runs from the least start to the greatest stop. -/
theorem cover_eq (a b : Span) : a.cover b = ⟨min a.start b.start, max a.stop b.stop⟩ := by
  rw [cover, Position.earlier_eq_min, Position.later_eq_max]

theorem cover_comm (a b : Span) : a.cover b = b.cover a := by
  rw [cover_eq, cover_eq, min_comm, max_comm]

theorem cover_assoc (a b c : Span) : (a.cover b).cover c = a.cover (b.cover c) := by
  simp only [cover_eq, min_assoc, max_assoc]

theorem foldl_cover (rest : List Span) :
    ∀ a b : Span, rest.foldl cover (a.cover b) = a.cover (rest.foldl cover b) := by
  induction rest with
  | nil => exact fun _ _ => rfl
  | cons c rest ih =>
      intro a b
      simp [cover_assoc, ih]

theorem coverAll?_cons (s : Span) (rest : List Span) :
    coverAll? (s :: rest) = some ((coverAll? rest).elim s s.cover) := by
  cases rest with
  | nil => rfl
  | cons t rest => exact congrArg some (foldl_cover rest s t)

/-- The span over some spans does not depend on the order in which they are taken. -/
theorem coverAll?_perm {l k : List Span} (h : l.Perm k) : coverAll? l = coverAll? k := by
  induction h with
  | nil => rfl
  | cons s _ ih => rw [coverAll?_cons, coverAll?_cons, ih]
  | swap s t rest =>
      rw [coverAll?_cons, coverAll?_cons, coverAll?_cons, coverAll?_cons]
      cases coverAll? rest with
      | none => exact congrArg some (cover_comm t s)
      | some c =>
          refine congrArg some ?_
          show t.cover (s.cover c) = s.cover (t.cover c)
          rw [← cover_assoc, cover_comm t s, cover_assoc]
  | trans _ _ ih ih' => exact ih.trans ih'

/-- Spans that run forward, each of them from the stop of those in front of it or later. -/
structure InRow (spans : List Span) : Prop where
  forward : ∀ s ∈ spans, s.start ≤ s.stop
  apart : spans.Pairwise fun a b => a.stop ≤ b.start

namespace InRow

theorem nil : InRow [] :=
  ⟨fun _ h => absurd h List.not_mem_nil, List.Pairwise.nil⟩

/-- A span joins a row that stops before it starts. -/
theorem concat {spans : List Span} (h : InRow spans) {s : Span} (hforward : s.start ≤ s.stop)
    (hbehind : ∀ a ∈ spans, a.stop ≤ s.start) : InRow (spans ++ [s]) where
  forward := by
    intro a ha
    rcases List.mem_append.mp ha with ha | ha
    · exact h.forward a ha
    · rw [List.mem_singleton.mp ha]
      exact hforward
  apart := by
    rw [List.pairwise_append]
    refine ⟨h.apart, List.pairwise_singleton _ s, ?_⟩
    intro a ha b hb
    rw [List.mem_singleton.mp hb]
    exact hbehind a ha

theorem left {front back : List Span} (h : InRow (front ++ back)) : InRow front :=
  ⟨fun s hs => h.forward s (List.mem_append_left _ hs), (List.pairwise_append.mp h.apart).1⟩

theorem right {front back : List Span} (h : InRow (front ++ back)) : InRow back :=
  ⟨fun s hs => h.forward s (List.mem_append_right _ hs), (List.pairwise_append.mp h.apart).2.1⟩

/-- The first span of a row starts before any of them stops. -/
theorem start_head_le {spans : List Span} (h : InRow spans) (hne : spans ≠ []) {s : Span}
    (hs : s ∈ spans) : (spans.head hne).start ≤ s.stop := by
  cases spans with
  | nil => exact absurd rfl hne
  | cons first rest =>
      rcases List.mem_cons.mp hs with rfl | hs
      · exact h.forward _ List.mem_cons_self
      · have hfirst := h.forward first List.mem_cons_self
        have hapart := (List.pairwise_cons.mp h.apart).1 s hs
        exact hfirst.trans (hapart.trans (h.forward s (List.mem_cons_of_mem _ hs)))

/-- Spans in a row are covered from the start of the first one to the stop of the last one. -/
theorem coverAll?_eq {spans : List Span} (h : InRow spans) (hne : spans ≠ []) :
    coverAll? spans = some ⟨(spans.head hne).start, (spans.getLast hne).stop⟩ := by
  induction spans with
  | nil => exact absurd rfl hne
  | cons s rest ih =>
      rw [coverAll?_cons]
      cases rest with
      | nil => rfl
      | cons t rest =>
          have hrow : InRow (t :: rest) := right (show InRow ([s] ++ t :: rest) from h)
          have hbehind := (List.pairwise_cons.mp h.apart).1
          have hstart : s.start ≤ t.start :=
            (h.forward s List.mem_cons_self).trans (hbehind t List.mem_cons_self)
          have hlast : (t :: rest).getLast (List.cons_ne_nil t rest) ∈ t :: rest :=
            List.getLast_mem _
          have hstop : s.stop ≤ ((t :: rest).getLast (List.cons_ne_nil t rest)).stop :=
            (hbehind _ hlast).trans (hrow.forward _ hlast)
          rw [ih hrow (List.cons_ne_nil t rest), Option.elim_some, cover_eq,
            List.getLast_cons (List.cons_ne_nil t rest)]
          exact congrArg some (congrArg₂ Span.mk (min_eq_left hstart) (max_eq_right hstop))

end InRow

/-- A span runs forward over others that come one after another: if there are any, from the start of
the first one to the stop of the last one. -/
structure Frames (s : Span) (below : List Span) : Prop where
  forward : s.start ≤ s.stop
  apart : below.Pairwise fun a b => a.stop ≤ b.start
  ends : ∀ h : below ≠ [], s = ⟨(below.head h).start, (below.getLast h).stop⟩

/-- The last spans of a row that a position has passed are framed by the span over them, or by the
position if there are none; and the frame may stand in their place. -/
theorem InRow.frames {front back : List Span} {p : Position} (h : InRow (front ++ back))
    (hpassed : ∀ s ∈ front ++ back, s.stop ≤ p) {s : Span}
    (hs : s = (coverAll? back).getD (point p)) :
    s.Frames back ∧ (∀ a ∈ front, a.stop ≤ s.start) ∧ s.stop ≤ p := by
  by_cases hne : back = []
  · subst hne
    subst hs
    exact ⟨⟨le_refl p, List.Pairwise.nil, fun h => absurd rfl h⟩,
      fun a ha => hpassed a (List.mem_append_left _ ha), le_refl p⟩
  · rw [h.right.coverAll?_eq hne, Option.getD_some] at hs
    subst hs
    have hfirst : back.head hne ∈ back := List.head_mem hne
    have hlast : back.getLast hne ∈ back := List.getLast_mem hne
    have hforward : (back.head hne).start ≤ (back.getLast hne).stop :=
      h.right.start_head_le hne hlast
    have hbehind : ∀ a ∈ front, a.stop ≤ (back.head hne).start :=
      fun a ha => (List.pairwise_append.mp h.apart).2.2 a ha _ hfirst
    have hlastPassed : (back.getLast hne).stop ≤ p := hpassed _ (List.mem_append_right _ hlast)
    exact ⟨⟨hforward, h.right.apart, fun _ => rfl⟩, hbehind, hlastPassed⟩

end Span
end Syntax
end TreeLint
