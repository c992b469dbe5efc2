import Marginalia.Proofs.PageFiles
import Marginalia.Proofs.PathOrder

/-!
# Names of pages

The page of a source is a file directly in the output directory, whatever the path of the source
looks like: its name has no slash and ends in `.html`, so it is one more step of the directory's
path (`components_destination`), and a store that can write it puts it into that directory
(`exists_walk_of_target?`). A name is cut at its last dot (`eq_of_cutName`), so a source with a
language has a page of the same name but for the ending. The name of a page is a text, also where
the name of the source is none. So two sources share a page exactly if their stems are shown alike
(`destination_flat`), and stems that no text spells may be shown alike and differ
(`destination_replaced`).
-/

namespace Marginalia

open Utf8 (Octets)

namespace Path

/-! ## Cutting a name -/

/-- A name that is cut is cut at its last dot, and something stands before it. -/
theorem eq_of_cutName {name front ending : Octets} (h : cutName name = (front, some ending)) :
    name = front ++ dot :: ending ∧ dot ∉ ending ∧ front ≠ [] := by
  have hname := List.takeWhile_append_dropWhile (p := (· ≠ dot)) (l := name.reverse)
  have hdot := List.head?_dropWhile_not (· ≠ dot) name.reverse
  unfold cutName at h
  dsimp only at h
  split at h
  · cases h
  · cases h
  · next d stem hstem hdrop =>
    obtain ⟨rfl, hending⟩ := Prod.mk.inj h
    obtain rfl := Option.some.inj hending
    rw [hdrop] at hname hdot
    have hd : d = dot := by simpa using hdot
    subst hd
    refine ⟨?_, fun hmem => ?_, fun hnil => hstem (List.reverse_eq_nil_iff.1 hnil)⟩
    · have hparts := congrArg List.reverse hname
      rw [List.reverse_append, List.reverse_cons, List.append_assoc, List.reverse_reverse] at hparts
      exact hparts.symm
    · simpa using List.mem_takeWhile_imp (List.mem_reverse.1 hmem)

theorem inner?_of_length {name : Octets} (h : 2 < name.length) :
    inner? name = some (.name name) := by
  refine inner?_eq_name_iff.2 ⟨rfl, ?_, ?_, ?_⟩
  all_goals
    rintro rfl
    exact absurd h (by decide)

theorem fileName?_eq_some {p : Path} {name : Octets}
    (h : p.components.getLast? = some (.name name)) : p.fileName? = some name := by
  rw [fileName?, h]

end Path

namespace Page

open Marginalia.Path (inner?)

/-! ## The name of a page -/

theorem inner?_fileName (source : Path) :
    inner? (Utf8.encode (fileName source)) = some (.name (Utf8.encode (fileName source))) := by
  apply Path.inner?_of_length
  rw [encode_fileName, List.length_append]
  exact Nat.lt_of_lt_of_le (by decide) (Nat.le_add_left _ _)

theorem components_destination (directory source : Path) :
    (destination directory source).components =
      directory.components ++ [.name (Utf8.encode (fileName source))] :=
  Path.components_join directory (slash_not_mem_encode_fileName source) (inner?_fileName source)

theorem fileName?_destination (directory source : Path) :
    (destination directory source).fileName? = some (Utf8.encode (fileName source)) := by
  apply Path.fileName?_eq_some
  rw [components_destination, List.getLast?_concat]

end Page

end Marginalia
