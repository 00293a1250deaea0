import Highlighting.Style.Basic

/-!
The classes that a highlighter tells apart in a text, their names, and how each looks unless a
theme says otherwise.
-/
namespace Highlighting

inductive StyleClass where
  | keyword
  | builtin
  | number
  | string
  | comment
  | blockComment
  | decorator
  | tag
  | attributeName
  | selector
  | property
  | value
  | literal
  | preprocessor
  | special
  deriving DecidableEq, Repr

namespace StyleClass

def all : List StyleClass :=
  [keyword, builtin, number, string, comment, blockComment, decorator, tag, attributeName,
    selector, property, value, literal, preprocessor, special]

def name : StyleClass → String
  | keyword => "keyword"
  | builtin => "builtin"
  | number => "number"
  | string => "string"
  | comment => "comment"
  | blockComment => "block_comment"
  | decorator => "decorator"
  | tag => "tag"
  | attributeName => "attribute"
  | selector => "selector"
  | property => "property"
  | value => "value"
  | literal => "literal"
  | preprocessor => "preprocessor"
  | special => "special"

def ofName? (name : String) : Option StyleClass :=
  all.find? (·.name = name)

def isComment : StyleClass → Bool
  | comment => true
  | blockComment => true
  | _ => false

def defaultStyle : StyleClass → Style
  | keyword => (Style.rgb 197 134 192).withBold
  | builtin => .rgb 229 192 123
  | number => .rgb 255 170 0
  | string => .rgb 152 195 121
  | comment => (Style.rgb 128 128 128).withItalic
  | blockComment => (Style.rgb 128 128 128).withItalic
  | decorator => .rgb 220 220 170
  | tag => .rgb 86 156 214
  | attributeName => .rgb 156 220 254
  | selector => .rgb 215 186 125
  | property => .rgb 156 220 254
  | value => .rgb 184 115 211
  | literal => .rgb 86 156 214
  | preprocessor => .rgb 155 155 155
  | special => .rgb 86 156 214

end StyleClass

end Highlighting
