import SqlDialects.Behavior

namespace SqlDialects

namespace QuoteStyle

def opening : QuoteStyle → Char
  | doubleQuote => '"'
  | backtick => '\x60'
  | bracket => '['

def closing : QuoteStyle → Char
  | doubleQuote => '"'
  | backtick => '\x60'
  | bracket => ']'

def escape (style : QuoteStyle) (c : Char) : List Char :=
  if c = style.closing then [c, c] else [c]

def quoteChars (style : QuoteStyle) (name : List Char) : List Char :=
  style.opening :: name.flatMap style.escape ++ [style.closing]

def quote (style : QuoteStyle) (name : String) : String :=
  String.ofList (style.quoteChars name.toList)

end QuoteStyle

namespace StringStyle

def escape (style : StringStyle) (c : Char) : List Char :=
  if c = '\'' || (c = '\\' && style.escapesBackslash) then [c, c] else [c]

/-- A string literal, after its lead. -/
def quoteChars (style : StringStyle) (value : List Char) : List Char :=
  '\'' :: value.flatMap style.escape ++ ['\'']

/-- A string literal. -/
def quote (style : StringStyle) (value : String) : String :=
  style.lead ++ String.ofList (style.quoteChars value.toList)

end StringStyle

end SqlDialects
