import RuleMachine.Vocabulary.Basic

/-!
# Standard vocabularies

Two vocabularies that grammars can be compiled against at once: the tokens of
Python, where every operator has a kind of its own, and a small set of tokens in
which all operators share one kind.
-/

namespace RuleMachine.Vocabulary

/-- The named tokens of Python. -/
def pythonTokens : List (String × TokenKind) :=
    [("ENDMARKER", 1), ("NAME", 2), ("NUMBER", 3), ("STRING", 4), ("NEWLINE", 5),
    ("INDENT", 6), ("DEDENT", 7), ("LPAR", 8), ("RPAR", 9), ("LSQB", 10), ("RSQB", 11),
    ("COLON", 12), ("COMMA", 13), ("SEMI", 14), ("PLUS", 15), ("MINUS", 16), ("STAR", 17),
    ("SLASH", 18), ("VBAR", 19), ("AMPER", 20), ("LESS", 21), ("GREATER", 22),
    ("EQUAL", 23), ("DOT", 24), ("PERCENT", 25), ("BACKQUOTE", 26), ("LBRACE", 27),
    ("RBRACE", 28), ("EQEQUAL", 29), ("NOTEQUAL", 30), ("LESSEQUAL", 31),
    ("GREATEREQUAL", 32), ("TILDE", 33), ("CIRCUMFLEX", 34), ("LEFTSHIFT", 35),
    ("RIGHTSHIFT", 36), ("DOUBLESTAR", 37), ("PLUSEQUAL", 38), ("MINEQUAL", 39),
    ("STAREQUAL", 40), ("SLASHEQUAL", 41), ("PERCENTEQUAL", 42), ("AMPEREQUAL", 43),
    ("VBAREQUAL", 44), ("CIRCUMFLEXEQUAL", 45), ("LEFTSHIFTEQUAL", 46),
    ("RIGHTSHIFTEQUAL", 47), ("DOUBLESTAREQUAL", 48), ("DOUBLESLASH", 49),
    ("DOUBLESLASHEQUAL", 50), ("AT", 51), ("ATEQUAL", 52), ("RARROW", 53),
    ("ELLIPSIS", 54), ("OP", 55), ("ASYNC", 56), ("AWAIT", 57), ("ERRORTOKEN", 58),
    ("COMMENT", 59), ("NIL", 60)]

/-- The operators of Python and the kinds of their tokens. -/
def pythonOperators : List (String × TokenKind) :=
    [("(", 8), (")", 9), ("[", 10), ("]", 11), (":", 12), (",", 13), (";", 14), ("+", 15),
    ("-", 16), ("*", 17), ("/", 18), ("|", 19), ("&", 20), ("<", 21), (">", 22), ("=", 23),
    (".", 24), ("%", 25), ("`", 26), ("\x7b", 27), ("\x7d", 28), ("==", 29), ("!=", 30),
    ("<>", 30), ("<=", 31), (">=", 32), ("~", 33), ("^", 34), ("<<", 35), (">>", 36),
    ("**", 37), ("+=", 38), ("-=", 39), ("*=", 40), ("/=", 41), ("%=", 42), ("&=", 43),
    ("|=", 44), ("^=", 45), ("<<=", 46), (">>=", 47), ("**=", 48), ("//", 49), ("//=", 50),
    ("@", 51), ("@=", 52), ("->", 53), ("...", 54)]

/-- Name every token of a list, whatever its kind. -/
def nameTokens (vocabulary : Vocabulary) (named : List (String × TokenKind)) : Vocabulary :=
  named.foldl (fun extended entry => extended.nameToken entry.1 entry.2) vocabulary

/-- The vocabulary of Python sources: identifiers are `NAME`, the input ends with
`ENDMARKER`. -/
def python : Vocabulary :=
  ((unnamed 2 1).nameTokens pythonTokens).addOperators pythonOperators

namespace Mini

/-- The marker that ends the input. -/
def endMarker : TokenKind := 0

/-- Identifiers. -/
def name : TokenKind := 1

/-- Numbers. -/
def number : TokenKind := 2

/-- Quoted strings. -/
def string : TokenKind := 3

/-- Line ends. -/
def newline : TokenKind := 4

/-- Operators of every spelling. -/
def op : TokenKind := 5

end Mini

/-- The named tokens of the small vocabulary. -/
def miniTokens : List (String × TokenKind) :=
  [("NAME", Mini.name), ("ENDMARKER", Mini.endMarker), ("NUMBER", Mini.number),
    ("STRING", Mini.string), ("NEWLINE", Mini.newline), ("OP", Mini.op)]

/-- The operators of the small vocabulary; all have one kind. -/
def miniOperators : List (String × TokenKind) :=
  ["+", "-", "*", "/", "=", "(", ")", ",", ":"].map fun literal => (literal, Mini.op)

/-- A small vocabulary in which every operator is an `OP`. -/
def mini : Vocabulary :=
  ((unnamed Mini.name Mini.endMarker).nameTokens miniTokens).addOperators miniOperators

end RuleMachine.Vocabulary
