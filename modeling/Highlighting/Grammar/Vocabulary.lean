/-!
Words that have a meaning of their own in a language.
-/
namespace Highlighting.Vocabulary

def pythonKeywords : List String :=
  ["False", "None", "True", "and", "as", "assert", "async", "await", "break", "class", "continue",
    "def", "del", "elif", "else", "except", "finally", "for", "from", "global", "if", "import",
    "in", "is", "lambda", "nonlocal", "not", "or", "pass", "raise", "return", "try", "while",
    "with", "yield", "match", "case"]

def pythonBuiltins : List String :=
  ["abs", "all", "any", "ascii", "bin", "bool", "breakpoint", "bytearray", "bytes", "callable",
    "chr", "classmethod", "compile", "complex", "delattr", "dict", "dir", "divmod", "enumerate",
    "eval", "exec", "filter", "float", "format", "frozenset", "getattr", "globals", "hasattr",
    "hash", "help", "hex", "id", "input", "int", "isinstance", "issubclass", "iter", "len", "list",
    "locals", "map", "max", "memoryview", "min", "next", "object", "oct", "open", "ord", "pow",
    "print", "property", "range", "repr", "reversed", "round", "set", "setattr", "slice", "sorted",
    "staticmethod", "str", "sum", "super", "tuple", "type", "vars", "zip", "__import__"]

def javaScriptKeywords : List String :=
  ["break", "case", "catch", "class", "const", "continue", "debugger", "default", "delete", "do",
    "else", "export", "extends", "finally", "for", "function", "if", "import", "in", "instanceof",
    "new", "return", "super", "switch", "this", "throw", "try", "typeof", "var", "void", "while",
    "with", "yield", "let", "static", "async", "await", "get", "set"]

def javaScriptBuiltins : List String :=
  ["Array", "Boolean", "Date", "Error", "EvalError", "Function", "Infinity", "JSON", "Math", "NaN",
    "Number", "Object", "Promise", "Proxy", "RangeError", "ReferenceError", "RegExp", "Set",
    "String", "Symbol", "SyntaxError", "TypeError", "URIError", "Uint8Array", "Map", "WeakMap",
    "WeakSet", "console", "decodeURI", "decodeURIComponent", "document", "encodeURI",
    "encodeURIComponent", "eval", "isFinite", "isNaN", "null", "parseFloat", "parseInt",
    "undefined", "window", "globalThis", "arguments"]

def sqlKeywords : List String :=
  ["SELECT", "FROM", "WHERE", "INSERT", "INTO", "VALUES", "UPDATE", "SET", "DELETE", "CREATE",
    "TABLE", "INDEX", "VIEW", "DATABASE", "ALTER", "DROP", "GRANT", "REVOKE", "COMMIT", "ROLLBACK",
    "SAVEPOINT", "BEGIN", "TRANSACTION", "END", "JOIN", "INNER", "LEFT", "RIGHT", "OUTER", "ON",
    "GROUP", "BY", "ORDER", "ASC", "DESC", "LIMIT", "OFFSET", "HAVING", "AS", "DISTINCT", "UNION",
    "ALL", "CASE", "WHEN", "THEN", "ELSE", "AND", "OR", "NOT", "IN", "LIKE", "BETWEEN", "IS",
    "NULL", "EXISTS", "PRIMARY", "KEY", "FOREIGN", "REFERENCES", "UNIQUE", "CHECK", "DEFAULT",
    "CONSTRAINT", "VARCHAR", "INT", "INTEGER", "TEXT", "BLOB", "REAL", "FLOAT", "DATE", "DATETIME",
    "TIMESTAMP", "BOOLEAN", "TRUE", "FALSE"]

def sqlFunctions : List String :=
  ["COUNT", "SUM", "AVG", "MIN", "MAX", "ABS", "ROUND", "UPPER", "LOWER", "SUBSTR", "SUBSTRING",
    "LENGTH", "CAST", "COALESCE", "NULLIF", "DATE", "TIME", "DATETIME", "STRFTIME", "RANDOM"]

def cStyleKeywords : List String :=
  ["if", "else", "for", "while", "do", "switch", "case", "default", "break", "continue", "return",
    "goto", "try", "catch", "finally", "throw", "throws", "public", "private", "protected",
    "static", "final", "abstract", "class", "interface", "enum", "struct", "namespace", "using",
    "import", "package", "new", "delete", "this", "super", "extends", "implements", "virtual",
    "override", "const", "volatile", "synchronized", "transient", "native", "void", "int", "long",
    "float", "double", "char", "byte", "short", "boolean", "string", "var", "let", "auto"]

def cStyleLiterals : List String :=
  ["true", "false", "null", "nullptr", "undefined"]

end Highlighting.Vocabulary
