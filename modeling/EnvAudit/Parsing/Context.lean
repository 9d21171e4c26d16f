import EnvAudit.Grammar.Tables

/-!
# Tokens from context

Some tokens cannot be told by a pattern: whether a line end ends a statement
depends on what follows, and plain text of templates and markup ends where
something else begins.  `ContextRules.scan` looks for such a token among those
that may come next.
-/

namespace EnvAudit.Grammar

/-- A token that was found: its kind, its first byte and the byte behind it. -/
structure ContextMatch where
  token : ContextToken
  start : Nat
  stop : Nat

namespace ContextRules

/-- Blanks within a line and line feeds. -/
def isSpace (c : Char) : Bool :=
  c = ' ' || ('\t' ≤ c && c ≤ '\r')

/-- Ends of lines as statements see them. -/
def isLineEnd (c : Char) : Bool :=
  c = '\n' || c = '\u2028' || c = '\u2029'

def skipSpaces (text : String) (i : Nat) : Nat :=
  skipWhile text isSpace i

/-- The end of a line. -/
def lineEnd (text : String) (isEnd : Char → Bool) (i : Nat) : Nat :=
  skipWhile text (fun c => c != '\x00' && !isEnd c) i

/-- What stands between a token and the next. -/
inductive Gap where
  /-- A slash that begins no comment. -/
  | slash
  /-- A comment within a line. -/
  | sameLine
  /-- Blanks and comments. -/
  | passed
  deriving BEq

/-- The end of a comment that spans lines and whether it holds a line end.
The flag tells whether the comment is closed at all. -/
def blockComment (text : String) (i : Nat) (brokeLine : Bool) : Nat × Bool × Bool :=
  if _inside : i < text.utf8ByteSize then
    let c := charAt text i
    if c = '\x00' then
      (i, brokeLine, false)
    else if c = '*' && charAt text (i + c.utf8Size) = '/' then
      (i + 2, brokeLine, true)
    else
      blockComment text (i + c.utf8Size) (brokeLine || isLineEnd c)
  else
    (i, brokeLine, false)
termination_by text.utf8ByteSize - i
decreasing_by
  have := Char.utf8Size_pos (charAt text i)
  omega

/-- Skips blanks and comments.  Unless `whole` is set, stops behind a comment
that no other comment follows at once.  Returns what was found, whether a
comment was, and where it ends. -/
def skipGap (text : String) (isEnd : Char → Bool) (whole : Bool) :
    (fuel : Nat) → (i : Nat) → (commented brokeLine : Bool) → Gap × Bool × Nat
  | 0, i, commented, _ => (.passed, commented, i)
  | fuel + 1, i, commented, brokeLine =>
      let i := skipSpaces text i
      if charAt text i = '/' then
        let second := charAt text (i + 1)
        if second = '/' then
          skipGap text isEnd whole fuel (lineEnd text isEnd (i + 2)) true brokeLine
        else if second = '*' then
          let (stop, brokeLine, closed) := blockComment text (i + 2) brokeLine
          if closed && !whole && charAt text stop != '/' then
            (if brokeLine then .passed else .sameLine, true, stop)
          else
            skipGap text isEnd whole fuel stop (commented || closed) brokeLine
        else
          (.slash, commented, i + 1)
      else
        (.passed, commented, i)

/-- What comes of looking for the end of a statement: whether it was found,
whether a comment was passed, and how far was looked. -/
structure StatementEnd where
  found : Bool
  commented : Bool
  reached : Nat

/-- Whether the word at byte `i`, which begins with an `i`, is neither `in` nor
`instanceof`, and how far it was read. -/
def startsOtherWord (text : String) (i : Nat) : Bool × Nat :=
  if charAt text (i + 1) != 'n' then
    (true, i + 1)
  else if !(charAt text (i + 2)).isAlpha then
    (false, i + 2)
  else
    (!(standsAt text "stanceof" (i + 2) && !(charAt text (i + 10)).isAlpha), i + 10)

/-- Whether a statement may end before the character at byte `i`, the first
one of a later line, and how far was looked.  `continuing` holds characters
that go on with an expression. -/
def endsBefore (text : String) (i : Nat) (continuing : String) : Bool × Nat :=
  let c := charAt text i
  if c != '\x00' && continuing.contains c then
    (false, i)
  else
    match c with
    | '+' => (charAt text (i + 1) = '+', i + 1)
    | '-' => (charAt text (i + 1) = '-', i + 1)
    | '!' => (charAt text (i + 1) != '=', i + 1)
    | 'i' => startsOtherWord text i
    | _ => (true, i)

/-- Looks for the end of a statement in a plain script.  `commentEnds` says
that a comment may stand for a line end. -/
def scriptStatementEnd (text : String) (commentEnds : Bool) :
    (fuel : Nat) → (i : Nat) → (commented : Bool) → StatementEnd
  | 0, i, commented => ⟨false, commented, i⟩
  | fuel + 1, i, commented =>
      if charAt text i = '\x00' then
        ⟨true, commented, i⟩
      else
        let (gap, commented, i) :=
          if charAt text i = '/' then skipGap text isLineEnd false fuel i commented false
          else (.sameLine, commented, i)
        let c := charAt text i
        if gap == .slash then
          ⟨false, commented, i⟩
        else if gap == .passed && commentEnds && c != ',' && c != '=' then
          ⟨true, commented, i⟩
        else if c = '\x7d' || i = 0 then
          ⟨true, commented, i⟩
        else if isLineEnd c then
          let (gap, commented, i) :=
            skipGap text isLineEnd true fuel (i + c.utf8Size) commented false
          if gap == .slash then
            ⟨false, commented, i⟩
          else if charAt text i = '.' then
            ⟨(charAt text (i + 1)).isDigit, commented, i + 1⟩
          else
            let (found, reached) := endsBefore text i "`,:;*%><=[(?^|&/"
            ⟨found, commented, reached⟩
        else if isSpace c then
          scriptStatementEnd text commentEnds fuel (i + 1) commented
        else
          ⟨false, commented, i⟩

/-- Looks for the end of a statement in a typed script. -/
def typedStatementEnd (text : String) (logicalOr signature : Bool) :
    (fuel : Nat) → (i : Nat) → StatementEnd
  | 0, i => ⟨false, false, i⟩
  | fuel + 1, i =>
      let c := charAt text i
      if c = '\x00' then
        ⟨true, false, i⟩
      else if c = '\x7d' then
        -- A type annotation may follow the brace of a pattern.
        let next := skipSpaces text (i + 1)
        ⟨if charAt text next = ':' then logicalOr else true, false, next⟩
      else if !isSpace c then
        ⟨false, false, i⟩
      else if c = '\n' then
        let (gap, commented, i) := skipGap text (· = '\n') true fuel (i + 1) false false
        if gap == .slash then
          ⟨false, commented, i⟩
        else
          let c := charAt text i
          if c = '\x7b' && signature then
            ⟨false, commented, i⟩
          else if (c = '(' || c = '[') && logicalOr then
            ⟨false, commented, i⟩
          else
            let (found, reached) := endsBefore text i "`,.;*%><=?^|&/:"
            ⟨found, commented, reached⟩
      else
        typedStatementEnd text logicalOr signature fuel (i + 1)

/-- The question mark of a conditional expression, which optional chaining and
optional parameters also use. -/
def conditionalMark (rules : ContextRules) (text : String) (i : Nat) : Option ContextMatch :=
  let start := skipSpaces text i
  let second := charAt text (start + 1)
  if charAt text start != '?' || second = '?' || (rules == .typedScript && second = '.') then
    none
  else
    let found : ContextMatch := ⟨.conditionalMark, start, start + 1⟩
    let next :=
      match rules with
      | .script => start + 1
      | .typedScript => skipSpaces text (start + 1)
    let c := charAt text next
    if rules == .typedScript && (c = ':' || c = ')' || c = ',') then
      none
    else if c = '.' && !(charAt text (next + 1)).isDigit then
      none
    else
      some found

/-- A comment in the style of a markup document, up to the end of its line. -/
def markupComment (text : String) (start i : Nat) : Option ContextMatch :=
  let first := skipWhile text (fun c => isSpace c || c = '\u2028' || c = '\u2029') i
  let opening :=
    if standsAt text "<!--" first then some 4
    else if standsAt text "-->" first then some 3
    else none
  opening.map fun length =>
    ⟨.markupComment, if first = i then start else first, lineEnd text isLineEnd (first + length)⟩

/-- Plain characters of a template string. -/
def templateText (text : String) (start i : Nat) : Option ContextMatch :=
  if _inside : i < text.utf8ByteSize then
    let c := charAt text i
    let found := if start < i then some ⟨.templateText, start, i⟩ else none
    if c = '\x00' then none
    else if c = '`' || c = '\\' then found
    else if c = '$' && charAt text (i + 1) = '\x7b' then found
    else templateText text start (i + c.utf8Size)
  else
    none
termination_by text.utf8ByteSize - i
decreasing_by
  have := Char.utf8Size_pos (charAt text i)
  omega

/-- Plain characters between markup tags.  Blanks behind a line feed alone are
no text.  Returns where the characters end and whether they are a text. -/
def markupText (text : String) (i : Nat) (atLineStart isText : Bool) : Nat × Bool :=
  if _inside : i < text.utf8ByteSize then
    let c := charAt text i
    if "<>\x7b\x7d&\x00".contains c then
      (i, isText)
    else if c = '\n' then
      markupText text (i + c.utf8Size) true isText
    else
      let atLineStart := atLineStart && isSpace c
      markupText text (i + c.utf8Size) atLineStart (isText || !atLineStart)
  else
    (i, isText)
termination_by text.utf8ByteSize - i
decreasing_by
  all_goals
    have := Char.utf8Size_pos (charAt text i)
    omega

/-- Looks for the end of a statement and, where none is, for the question mark
of a conditional expression. -/
def statementEndOrMark (rules : ContextRules) (text : String) (valid : ContextToken → Bool)
    (i : Nat) : Option ContextMatch :=
  let fuel := text.utf8ByteSize + 1
  let result :=
    match rules with
    | .script => scriptStatementEnd text (!valid .logicalOr) fuel i false
    | .typedScript =>
        typedStatementEnd text (valid .logicalOr) (valid .signatureSemicolon) fuel i
  if result.found then
    some ⟨.automaticSemicolon, i, i⟩
  else if !result.commented && valid .conditionalMark && charAt text result.reached = '?' then
    rules.conditionalMark text result.reached
  else
    none

/-- Looks at byte `i` for a token that only its context tells. -/
def scan (rules : ContextRules) (text : String) (valid : ContextToken → Bool) (i : Nat) :
    Option ContextMatch :=
  if valid .templateText then
    if valid .automaticSemicolon then none else templateText text i i
  else
    let (afterText, isText) :=
      if valid .markupText then markupText text i false false else (i, false)
    if isText then
      some ⟨.markupText, i, afterText⟩
    else if valid .automaticSemicolon || valid .signatureSemicolon then
      rules.statementEndOrMark text valid afterText
    else if valid .conditionalMark then
      rules.conditionalMark text afterText
    else if valid .markupComment && !valid .logicalOr && !valid .escapeSequence &&
        !valid .regexPattern then
      markupComment text i afterText
    else
      none

end ContextRules

end EnvAudit.Grammar
