import Marginalia.Language
import Marginalia.Fault

/-!
# The registry of languages

Languages are found by the extension of a path, if that is a text. Dots in front of an extension do
not count, and the last registration of an extension holds.
-/

namespace Marginalia

/-- Languages by extension, the latest registration first. -/
structure Registry where
  entries : List (Text × Language)

namespace Registry

/-- An extension without the dots in front of it. -/
def key (extension : Text) : Text := extension.dropWhile (· = '.')

/-- No language at all. -/
def empty : Registry := ⟨[]⟩

/-- The registry in which `extension` stands for `lang`. -/
def register (r : Registry) (extension : Text) (lang : Language) : Registry :=
  ⟨(key extension, lang) :: r.entries.filter fun e => e.1 ≠ key extension⟩

/-- The language of an extension. -/
def get? (r : Registry) (extension : Text) : Option Language := r.entries.lookup (key extension)

/-- The registered extensions in order. -/
def extensions (r : Registry) : List Text :=
  (r.entries.map (·.1)).mergeSort fun a b => (a.compare b).isLE

/-- The language of the file at `p`. -/
def lookup (r : Registry) (p : Path) : Except Fault Language :=
  match (p.extension?.bind Utf8.decode?).bind r.get? with
  | some lang => .ok lang
  | none => .error (.unsupported p)

/-- The languages known from the start. -/
def default : Registry :=
  let table : List (String × String × String × CommentStyle) :=
    [("coffee", "coffee-script", "#", .line), ("js", "javascript", "//", .block),
     ("rb", "ruby", "#", .line), ("py", "python", "#", .line), ("tex", "tex", "%", .line),
     ("latex", "tex", "%", .line)]
  table.foldl (fun r (ext, name, symbol, style) =>
    r.register ext.toList ⟨name.toList, symbol.toList, style⟩) empty

end Registry

end Marginalia
