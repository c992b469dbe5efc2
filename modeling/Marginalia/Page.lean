import Marginalia.Highlight
import Marginalia.Path
import Marginalia.Page.Stylesheet

/-!
# Pages

A page shows the sections of a source side by side, prose left and code right. A run of several
sources has a menu on every page. Pages lie flat in the output directory under the stem of their
source.
-/

namespace Marginalia

/-- What a page shows. -/
structure Page where
  title : Text
  sections : List HighlightedSection
  sources : List Path

namespace Page

/-! ## Names -/

/-- The file name of the page of `source`. -/
def fileName (source : Path) : Text :=
  Utf8.decodeLossy (source.stem?.getD []) ++ ".html".toList

/-- Where the page of `source` lies inside `directory`. -/
def destination (directory source : Path) : Path := directory.join (.ofText (fileName source))

/-! ## Rendering -/

/-- The name by which the menu lists a source. -/
def label (source : Path) : Text := Utf8.decodeLossy (source.fileName?.getD [])

/-- The menu's entry for a source. -/
def menuEntry (naming : Path → Text) (source : Path) : Text :=
  "        <a class=\"source\" href=\"".toList ++ Markup.quote (naming source) ++ "\">".toList ++
    Markup.escape (label source) ++ "</a>\n".toList

/-- The menu of all sources. -/
def menu (naming : Path → Text) (sources : List Path) : Text :=
  "  <div id=\"jump_to\">\n    Jump To &hellip;\n    <div id=\"jump_wrapper\">\n".toList ++
    "      <div id=\"jump_page\">\n".toList ++ sources.flatMap (menuEntry naming) ++
    "      </div>\n    </div>\n  </div>\n".toList

/-- The row of the section with number `anchor`. -/
def row (anchor : Nat) (s : HighlightedSection) : Text :=
  "      <tr id=\"section-".toList ++ Text.ofNat anchor ++ "\">\n".toList ++
    "        <td class=\"docs\">\n          <div class=\"pilwrap\">\n".toList ++
    "            <a class=\"pilcrow\" href=\"#section-".toList ++ Text.ofNat anchor ++
    "\">&#182;</a>\n          </div>\n".toList ++ s.docsMarkup ++
    "\n        </td>\n        <td class=\"code\">\n".toList ++ s.codeMarkup ++
    "\n        </td>\n      </tr>\n".toList

/-- The rows of sections numbered from `anchor`. -/
def rows (anchor : Nat) : List HighlightedSection → Text
  | [] => []
  | s :: rest => row anchor s ++ rows (anchor + 1) rest

/-- Everything in front of the menu. -/
def head (title : Text) : Text :=
  "<!DOCTYPE html>\n<html>\n<head>\n  <title>".toList ++ Markup.escape title ++
    "</title>\n".toList ++
    "  <meta http-equiv=\"content-type\" content=\"text/html; charset=UTF-8\">\n".toList ++
    "  <link rel=\"stylesheet\" media=\"all\" href=\"".toList ++ Stylesheet.name ++
    "\" />\n</head>\n<body>\n<div id=\"container\">\n  <div id=\"background\"></div>\n".toList

/-- Everything between the menu and the rows. -/
def heading (title : Text) : Text :=
  "  <table cellpadding=\"0\" cellspacing=\"0\">\n    <thead>\n      <tr>\n".toList ++
    "        <th class=\"docs\"><h1>".toList ++ Markup.escape title ++ "</h1></th>\n".toList ++
    "        <th class=\"code\"></th>\n      </tr>\n    </thead>\n    <tbody>\n".toList

/-- Everything after the rows. -/
def foot : Text := "    </tbody>\n  </table>\n</div>\n</body>\n</html>\n".toList

/-- The page as a document. The menu appears if there is more than one source; `naming` gives the
link to a source's page. -/
def render (naming : Path → Text) (p : Page) : Text :=
  head p.title ++ (if p.sources.length > 1 then menu naming p.sources else []) ++
    heading p.title ++ rows 1 p.sections ++ foot

end Page

end Marginalia
