import PageScripts.Markup.Element
import PageScripts.Page

/-!
# A reader of pages

The script elements of a page, read off its tokens.
-/

namespace PageScripts
namespace Markup

/-- The scripts with a source of a page, or the fault of one that cannot be read. -/
def reader : Page.Reader := fun html =>
  match scriptElements html with
  | .error .markedSection => .error .page
  | .error (.longNumber digits) => .error (.longNumeral digits)
  | .ok elements => .ok elements

end Markup
end PageScripts
