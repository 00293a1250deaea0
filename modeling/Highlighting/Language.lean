import Highlighting.Text.Names

/-!
The languages that have a grammar of their own, and the names they go by.
-/
namespace Highlighting

inductive Language where
  | python
  | javaScript
  | html
  | css
  | sql
  | java
  | cpp
  | cSharp
  | php
  | ruby
  | go
  | text
  deriving DecidableEq, Repr, Inhabited

namespace Language

def all : List Language :=
  [python, javaScript, html, css, sql, java, cpp, cSharp, php, ruby, go, text]

def index : Language → Nat
  | python => 0
  | javaScript => 1
  | html => 2
  | css => 3
  | sql => 4
  | java => 5
  | cpp => 6
  | cSharp => 7
  | php => 8
  | ruby => 9
  | go => 10
  | text => 11

theorem index_lt (language : Language) : language.index < all.length := by
  cases language <;> decide

def name : Language → String
  | python => "Python"
  | javaScript => "JavaScript"
  | html => "HTML"
  | css => "CSS"
  | sql => "SQL"
  | java => "Java"
  | cpp => "C++"
  | cSharp => "C#"
  | php => "PHP"
  | ruby => "Ruby"
  | go => "Go"
  | text => "Text"

def ofLowerName : String → Language
  | "python" => python
  | "py" => python
  | "javascript" => javaScript
  | "js" => javaScript
  | "html" => html
  | "htm" => html
  | "css" => css
  | "sql" => sql
  | "java" => java
  | "c++" => cpp
  | "cpp" => cpp
  | "c#" => cSharp
  | "cs" => cSharp
  | "php" => php
  | "ruby" => ruby
  | "go" => go
  | _ => text

def ofName (name : String) : Language :=
  ofLowerName (String.ofList (Text.lowerName (Text.trim name.toList)))

def isCStyle : Language → Bool
  | java => true
  | cpp => true
  | cSharp => true
  | php => true
  | ruby => true
  | go => true
  | _ => false

end Language

end Highlighting
