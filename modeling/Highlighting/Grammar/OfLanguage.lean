import Highlighting.Grammar.Basic
import Highlighting.Grammar.Lexemes
import Highlighting.Grammar.Vocabulary

/-!
The grammar of each language. All of them begin with numbers and quoted strings.
-/
namespace Highlighting.Grammar

open Vocabulary

def sharedRules : List Rule := [
  { name := "number", pattern := Lexeme.number, kind := .number },
  { name := "double_string", pattern := Lexeme.quotedString '"', kind := .string },
  { name := "single_string", pattern := Lexeme.quotedString '\'', kind := .string }]

/-- A name follows the words, so as to win over them. -/
def pythonRules : List Rule := [
  .ofWords "keyword" pythonKeywords .keyword false,
  .ofWords "builtin" pythonBuiltins .builtin false,
  { name := "decorator", pattern := Lexeme.decorator, kind := .decorator },
  .ofWords "self" ["self"] .special false,
  { name := "triple_double", pattern := Lexeme.tripleString '"', kind := .string },
  { name := "triple_single", pattern := Lexeme.tripleString '\'', kind := .string }]

def javaScriptRules : List Rule := [
  .ofWords "keyword" javaScriptKeywords .keyword false,
  .ofWords "builtin" javaScriptBuiltins .builtin false,
  .ofWords "boolean" ["true", "false"] .literal false,
  { name := "template", pattern := Lexeme.template, kind := .string }]

def htmlRules : List Rule := [
  { name := "tag", pattern := Lexeme.tag, kind := .tag },
  { name := "attribute", pattern := Lexeme.attributeName, kind := .attributeName },
  { name := "attribute_value", pattern := Lexeme.attributeValue, kind := .value, group := some 1 },
  { name := "doctype", pattern := Lexeme.doctype, kind := .preprocessor }]

def cssRules : List Rule := [
  { name := "selector", pattern := Lexeme.selector, kind := .selector, group := some 1 },
  { name := "pseudo_class", pattern := Lexeme.pseudoClass, kind := .selector },
  { name := "property", pattern := Lexeme.property, kind := .property },
  { name := "value", pattern := Lexeme.propertyValue, kind := .value, group := some 1 }]

def sqlRules : List Rule := [
  .ofWords "keyword" sqlKeywords .keyword true,
  .ofWords "function" sqlFunctions .builtin true]

def cStyleRules : List Rule := [
  .ofWords "keyword" cStyleKeywords .keyword false,
  .ofWords "literal" cStyleLiterals .literal false,
  { name := "preprocessor", pattern := Lexeme.directive, kind := .preprocessor }]

def slashDelimiters : Delimiters := ⟨Lexeme.text "/*", Lexeme.text "*/"⟩

def markupDelimiters : Delimiters := ⟨Lexeme.text "<!--", Lexeme.text "-->"⟩

def tripleQuoteDelimiters : Delimiters :=
  let quotes := Pattern.alt (Lexeme.tripleQuote '"') (Lexeme.tripleQuote '\'')
  ⟨quotes, quotes⟩

def ownRules : Language → List Rule
  | .python => pythonRules
  | .javaScript => javaScriptRules
  | .html => htmlRules
  | .css => cssRules
  | .sql => sqlRules
  | .text => []
  | .java | .cpp | .cSharp | .php | .ruby | .go => cStyleRules

def lineCommentOpener? : Language → Option String
  | .python => some "#"
  | .sql => some "--"
  | .html | .css | .text => none
  | .javaScript | .java | .cpp | .cSharp | .php | .ruby | .go => some "//"

def delimiters? : Language → Option Delimiters
  | .python => some tripleQuoteDelimiters
  | .html => some markupDelimiters
  | .text => none
  | .javaScript | .css | .sql | .java | .cpp | .cSharp | .php | .ruby | .go => some slashDelimiters

end Highlighting.Grammar

namespace Highlighting.Language

def grammar (language : Language) : Grammar where
  language := language
  rules := Grammar.sharedRules ++ Grammar.ownRules language
  lineComment := (Grammar.lineCommentOpener? language).map Lexeme.lineComment
  blockComment := Grammar.delimiters? language

end Highlighting.Language
