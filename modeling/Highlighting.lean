import Highlighting.BlockComment
import Highlighting.CharSet.Basic
import Highlighting.CharSet.Category
import Highlighting.CharSet.Intervals
import Highlighting.CharSet.Named
import Highlighting.CharSet.Property
import Highlighting.CharSet.Script
import Highlighting.CharSet.Segment
import Highlighting.Coloring
import Highlighting.CommandLine.Arguments
import Highlighting.CommandLine.Run
import Highlighting.Display.Listing
import Highlighting.Display.Terminal
import Highlighting.DocumentCache
import Highlighting.Grammar.Basic
import Highlighting.Grammar.Edit
import Highlighting.Grammar.Lexemes
import Highlighting.Grammar.OfLanguage
import Highlighting.Grammar.Vocabulary
import Highlighting.Highlight
import Highlighting.Highlighter
import Highlighting.Language
import Highlighting.Main
import Highlighting.Pattern.Backtracking
import Highlighting.Pattern.Basic
import Highlighting.Pattern.CharClass
import Highlighting.Pattern.Escape
import Highlighting.Pattern.Expression
import Highlighting.Pattern.Fault
import Highlighting.Pattern.Flags
import Highlighting.Pattern.Footprint
import Highlighting.Pattern.Look
import Highlighting.Pattern.Parser
import Highlighting.Pattern.Search
import Highlighting.Pattern.Table
import Highlighting.Proofs.ArgumentParts
import Highlighting.Proofs.ArgumentReading
import Highlighting.Proofs.Backtracking
import Highlighting.Proofs.BlockMeaning
import Highlighting.Proofs.Boundaries
import Highlighting.Proofs.CacheCoherence
import Highlighting.Proofs.CharacterTables
import Highlighting.Proofs.ColorSyntax
import Highlighting.Proofs.CommandOutput
import Highlighting.Proofs.CommentOverlap
import Highlighting.Proofs.CommentScan
import Highlighting.Proofs.CommentSpans
import Highlighting.Proofs.Docstrings
import Highlighting.Proofs.DocumentScan
import Highlighting.Proofs.GrammarEdits
import Highlighting.Proofs.LanguageChoice
import Highlighting.Proofs.LanguageNames
import Highlighting.Proofs.LineComments
import Highlighting.Proofs.Lines
import Highlighting.Proofs.LongestReading
import Highlighting.Proofs.Matching
import Highlighting.Proofs.Numbers
import Highlighting.Proofs.Painting
import Highlighting.Proofs.PrintedText
import Highlighting.Proofs.PropertyValues
import Highlighting.Proofs.QuotedStrings
import Highlighting.Proofs.ReadListing
import Highlighting.Proofs.Reading
import Highlighting.Proofs.Refill
import Highlighting.Proofs.RefreshExtent
import Highlighting.Proofs.RuleRanges
import Highlighting.Proofs.SafeSpans
import Highlighting.Proofs.ScanRounds
import Highlighting.Proofs.Scanner
import Highlighting.Proofs.Screen
import Highlighting.Proofs.SearchSteps
import Highlighting.Proofs.SpanForm
import Highlighting.Proofs.Spelling
import Highlighting.Proofs.StoredStyles
import Highlighting.Proofs.StyleValues
import Highlighting.Proofs.StyledOutput
import Highlighting.Proofs.Succession
import Highlighting.Proofs.Templates
import Highlighting.Proofs.ThemeOverlay
import Highlighting.Proofs.ThemeSettings
import Highlighting.Proofs.TomlKeys
import Highlighting.Proofs.TomlOrder
import Highlighting.Proofs.WholeWords
import Highlighting.Proofs.WordPattern
import Highlighting.Rule
import Highlighting.Style.Basic
import Highlighting.Style.Color
import Highlighting.Style.StyleClass
import Highlighting.Text.Bytes
import Highlighting.Text.Columns
import Highlighting.Text.Digits
import Highlighting.Text.Lines
import Highlighting.Text.Names
import Highlighting.Text.Quoted
import Highlighting.Text.Utf8
import Highlighting.Theme.Basic
import Highlighting.Theme.File
import Highlighting.Theme.Overlay
import Highlighting.Toml.Document
import Highlighting.Toml.Lexeme
import Highlighting.Toml.Scalar
import Highlighting.Toml.Tables
import Highlighting.Toml.Value
import Highlighting.Unicode.Age
import Highlighting.Unicode.Blank
import Highlighting.Unicode.CaseFold
import Highlighting.Unicode.Category
import Highlighting.Unicode.Digit
import Highlighting.Unicode.Hidden
import Highlighting.Unicode.Property
import Highlighting.Unicode.Ranges
import Highlighting.Unicode.Script
import Highlighting.Unicode.Width
import Highlighting.Unicode.Word
