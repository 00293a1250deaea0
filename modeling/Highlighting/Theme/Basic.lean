import Highlighting.Style.StyleClass

/-!
Themes: the styles that are stored for classes. A class without one looks as it does by default.
-/
namespace Highlighting

structure Theme where
  stored : StyleClass → Option Style

namespace Theme

def empty : Theme := ⟨fun _ => none⟩

def style (theme : Theme) (kind : StyleClass) : Style :=
  (theme.stored kind).getD kind.defaultStyle

def set (theme : Theme) (kind : StyleClass) (style : Style) : Theme :=
  ⟨fun k => if k = kind then some style else theme.stored k⟩

def default : Theme :=
  StyleClass.all.foldl (fun theme kind => theme.set kind kind.defaultStyle) empty

def agrees (a b : Theme) : Bool :=
  StyleClass.all.all fun kind => a.stored kind = b.stored kind

end Theme

end Highlighting
