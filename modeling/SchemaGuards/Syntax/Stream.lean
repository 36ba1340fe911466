import SchemaGuards.Syntax.Scan.Lexeme

/-!
# The stream of tokens

A parser looks at the current token and at the one after it, and takes tokens one by one.
Tokens are read only when they are looked at, because the reading depends on the mode: in a
type the angle brackets stand alone, in a template the text between the holes is a token.

## Implementation notes

A parser that fails keeps its state; `attempt` and `lookAhead` put the earlier state back.
Faults that do not stop the parser are reported, and only the first of them is kept. Where no
token can be read stands a broken one; to report or fail there goes past it and keeps its
fault, which comes first.
-/

namespace SchemaGuards.Syntax

/-- What a token may be read as, and what may stand at the place of the parser. -/
structure Mode where
  /-- Angle brackets stand alone. -/
  inType : Bool := false
  /-- Faults that do not stop the parser are forgotten. -/
  quiet : Bool := false
  /-- The word `in` is an operator. -/
  inOperator : Bool := true
  declared : Bool := false
  async : Bool := false
  generator : Bool := false
  function : Bool := false
  /-- Inside a function that is no arrow function. -/
  ordinaryFunction : Bool := false
  parameters : Bool := false
  breakable : Bool := false
  continuable : Bool := false
  /-- Inside the branches of a conditional expression. -/
  conditional : Bool := false
  /-- A colon that ends a branch of a conditional expression is due. -/
  colonDue : Bool := false
  staticBlock : Bool := false
  classBody : Bool := false
  superClass : Bool := false
  /-- In the value of a field or in a static block, where `arguments` names nothing. -/
  fieldValue : Bool := false
  /-- The word `extends` after a type belongs to a conditional type around it. -/
  plainTypes : Bool := false
  /-- The word `else` belongs to a surrounding statement. -/
  elseDue : Bool := false
  /-- The head of a loop. -/
  loopHead : Bool := false
  awaitLoopHead : Bool := false
  deriving Repr

/-- What is open around the next token, as far as templates are concerned. -/
inductive Bracket where
  /-- The text of a template. -/
  | template
  /-- A hole of a template. -/
  | hole
  | plain
  deriving DecidableEq, Repr

/-- A parser's place in the source and what it knows of it. -/
structure State where
  source : List Char
  /-- The number by which a diagnostic counts the first byte of the source. -/
  firstByte : Nat
  /-- A bound on the number of tokens. -/
  budget : Nat
  cursor : Cursor
  brackets : List Bracket := []
  /-- Where the template that was opened last starts. -/
  templateStart : Nat := 0
  /-- The last token was a chunk of a template. -/
  afterChunk : Bool := false
  /-- Some token was read. -/
  started : Bool := false
  /-- The place from which a regular expression is due. -/
  regexAt : Option Cursor := none
  mode : Mode := {}
  /-- The first fault that did not stop the parser. -/
  reported : Option Fault := none
  /-- The current token, once it was looked at. -/
  current : Option Lexeme := none
  /-- The token after the current one, once it was looked at. -/
  ahead : Option Lexeme := none
  /-- The span of the token that was taken last. -/
  previous : Span := ⟨0, 0⟩
  /-- Where an arrow function may start. -/
  arrowStart : Option Nat := none
  labels : List String := []
  deriving Repr

/-- An action that takes tokens. -/
abbrev Parse := EStateM Fault State

/-- The start of a source text whose first byte is counted by a number. A first line with a
shebang is skipped. -/
def State.initial (source : List Char) (firstByte : Nat) : State :=
  let shebang := if "#!".toList.isPrefixOf source then source.takeWhile (!isLineBreak ·) else []
  { source
    firstByte
    budget := source.length + 2
    cursor := ⟨source.drop shebang.length, shebang.length, none⟩ }

namespace Parse

variable {α : Type}

/-- Read characters at the cursor. -/
def scan (action : Scan α) : Parse α := fun s =>
  match action s.cursor with
  | .ok a cursor =>
    let reported := if s.mode.quiet then s.reported else s.reported <|> cursor.noted
    .ok a { s with cursor := { cursor with noted := none }, reported }
  | .error fault cursor =>
    let reported := if s.mode.quiet then s.reported else s.reported <|> cursor.noted
    .error fault { s with cursor := { cursor with noted := none }, reported }

/-- Open and close brackets after a token. -/
def bracketsAfter (token : Token) (brackets : List Bracket) : List Bracket :=
  match token with
  | .mark "\x7b" => .plain :: brackets
  | .mark "(" => .plain :: brackets
  | .mark "$\x7b" => .hole :: brackets
  | .mark "\x7d" => brackets.tail
  | .mark ")" => brackets.tail
  | .mark "`" =>
    match brackets with
    | .template :: outer => outer
    | _ => .template :: brackets
  | _ => brackets

/-- The next token of a template's text: a chunk, or the mark that ends it. -/
def templateToken (s : State) : Scan Token := do
  match s.afterChunk, ← Scan.following with
  | true, '`' :: _ => Scan.skip 1; return .mark "`"
  | true, '$' :: '{' :: _ => Scan.skip 2; return .mark "$\x7b"
  | _, _ => Scan.chunk s.templateStart

/-- Read the token at the cursor. At the end of the source there is none; a null character
counts as an end that one may go past. -/
def readToken (s : State) : Scan (Option Lexeme) := do
  match s.regexAt with
  | some cursor =>
    modify fun now => { cursor with noted := now.noted }
    let token ← Scan.settled Scan.regex
    return some ⟨token, ⟨cursor.offset, ← Scan.place⟩, false⟩
  | none =>
    let before ← Scan.place
    if s.brackets.head? = some .template then
      if (← Scan.following).isEmpty then return none
      let token ← Scan.settled (templateToken s)
      return some ⟨token, ⟨before, ← Scan.place⟩, false⟩
    let (fresh, fault) ← Scan.gap .blank
    let fresh := fresh || !s.started
    let start ← Scan.place
    match fault, ← Scan.following with
    | some fault, _ => return some ⟨← Scan.brokenAt fault, ⟨before, start⟩, fresh⟩
    | none, '\x00' :: _ =>
      Scan.skip 1
      return none
    | none, _ =>
      let (token, fresh) ← Scan.token s.mode.inType s.budget fresh
      let stop ← Scan.place
      return token.map (⟨·, ⟨start, stop⟩, fresh⟩)

/-- Read the next token. -/
def read : Parse (Option Lexeme) := do
  let found ← scan (readToken (← get))
  modify fun now => { now with started := true }
  match found with
  | none => return none
  | some lexeme =>
    let token := lexeme.token
    modify fun now => { now with
      brackets := bracketsAfter token now.brackets
      afterChunk := token matches .chunk _ _
      templateStart :=
        if token = .mark "`" && now.brackets.head? != some .template then lexeme.span.lo
        else now.templateStart }
    return some lexeme

/-- The current token with its place, none at the end. -/
def currentLexeme : Parse (Option Lexeme) := do
  let s ← get
  match s.current with
  | some lexeme => return some lexeme
  | none =>
    match s.ahead with
    | some lexeme =>
      set { s with current := some lexeme, ahead := none }
      return some lexeme
    | none =>
      let found ← read
      modify fun now => { now with current := found }
      return found

/-- The current token, none at the end. -/
def current : Parse (Option Token) := return (← currentLexeme).map (·.token)

/-- The token after the current one, with its place. -/
def nextLexeme : Parse (Option Lexeme) := do
  match (← get).ahead with
  | some lexeme => return some lexeme
  | none =>
    let found ← read
    modify fun now => { now with ahead := found }
    return found

/-- The token after the current one. -/
def next : Parse (Option Token) := return (← nextLexeme).map (·.token)

/-- Take the current token. -/
def advance : Parse Unit := do
  match ← currentLexeme with
  | some lexeme => modify fun s => { s with current := none, previous := lexeme.span }
  | none => return

/-- A line break or the end of the source stands before the current token's end. -/
def onFreshLine : Parse Bool := do
  match ← currentLexeme with
  | some lexeme => return lexeme.fresh
  | none => return true

/-- The token after the current one stands on a fresh line, or there is none. -/
def nextOnFreshLine : Parse Bool := do
  match ← nextLexeme with
  | some lexeme => return lexeme.fresh
  | none => return true

/-- Where the current token starts; at the end, where the last one ends. -/
def here : Parse Nat := do
  match ← currentLexeme with
  | some lexeme => return lexeme.span.lo
  | none => return (← get).previous.hi

/-- Where the last token ends. -/
def lastEnd : Parse Nat := return (← get).previous.hi

/-- The span of the last token. -/
def previousSpan : Parse Span := return (← get).previous

/-- The span of the current token if it was looked at, else that of the last one. -/
def currentSpan : Parse Span := do
  let s ← get
  return (s.current.map (·.span)).getD s.previous

/-- The span from a start to the end of the last token. -/
def spanFrom (start : Nat) : Parse Span := return ⟨start, ← lastEnd⟩

/-- The text of a span. -/
def slice (span : Span) : Parse String := return String.ofList (span.slice (← get).source)

/-- Keep a fault. The first one counts. -/
def keep (fault : Fault) : Parse Unit :=
  modify fun s => { s with reported := s.reported <|> some fault }

/-- Take the current token if it is broken, and give its fault. -/
def broken? : Parse (Option Fault) := do
  match ← current with
  | some (.broken fault _) =>
    advance
    return some fault
  | _ => return none

/-- Report a fault that does not stop the parser. That of a broken token here comes first. -/
def reportFault (fault : Fault) : Parse Unit := do
  if (← get).mode.quiet then return
  match ← broken? with
  | some earlier => keep earlier
  | none => pure ()
  keep fault

/-- Report a cause at a place. -/
def report (cause : Cause) (offset : Nat) : Parse Unit := reportFault ⟨cause, offset⟩

/-- Stop with a fault at a place. That of a broken token here is reported. -/
def failAt (cause : Cause) (offset : Nat) : Parse α := do
  match ← broken? with
  | some earlier => reportFault earlier
  | none => pure ()
  throw ⟨cause, offset⟩

/-- Stop with a fault at the current token. -/
def fail (cause : Cause) : Parse α := do failAt cause (← currentSpan).lo

/-- Report a fault at the current token. -/
def reportHere (cause : Cause) : Parse Unit := do report cause (← currentSpan).lo

/-- Stop if no token can be read here. The end of the source is no fault. -/
def readable : Parse (Option Token) := do
  match ← broken? with
  | some fault => throw fault
  | none => current

/-- The current token, where there has to be one. -/
def required : Parse Token := do
  match ← readable with
  | some token => return token
  | none => failAt .endOfText (← lastEnd)

/-- How a diagnostic names a token. -/
def shown (token : Token) : Parse String := do
  let s ← get
  return token.shown fun place => s.firstByte + (String.ofList (s.source.take place)).utf8ByteSize

/-- How a diagnostic names the current token. -/
def currentShown : Parse String := do
  match ← current with
  | some token => shown token
  | none => return "<eof>"

/-- The current word. -/
def word? : Parse (Option String) := return (← current).bind (·.wordText?)

/-- Whether the current token is the given mark or word. -/
def at? (token : Token) : Parse Bool := return (← current) = some token

/-- Whether the current token is a mark. -/
def isMark (text : String) : Parse Bool := at? (.mark text)

/-- Whether the current token is a word. -/
def isWord (text : String) : Parse Bool := at? (.word text)

/-- Whether the current token is one of some marks. -/
def isMarkOf (texts : List String) : Parse Bool := do
  match ← current with
  | some (.mark text) => return texts.contains text
  | _ => return false

/-- Whether the current token is one of some words. -/
def isWordOf (texts : List String) : Parse Bool := do
  match ← current with
  | some (.word text) => return texts.contains text
  | _ => return false

/-- Whether the token after the current one is a mark. -/
def nextIsMark (text : String) : Parse Bool := return (← next) = some (.mark text)

/-- Whether the token after the current one is a word. -/
def nextIsWord (text : String) : Parse Bool := return (← next) = some (.word text)

/-- Whether the current token may name something. -/
def isName : Parse Bool := return (← current).any (·.isName)

/-- Whether the current token is a word of any kind. -/
def isAnyWord : Parse Bool := return (← current).any (·.isWord)

/-- Whether the token after the current one may name something. -/
def nextIsName : Parse Bool := return (← next).any (·.isName)

/-- Take the current token if it is the given one. -/
def eat (token : Token) : Parse Bool := do
  if ← at? token then advance; return true else return false

/-- Take a mark if it is the current token. -/
def eatMark (text : String) : Parse Bool := eat (.mark text)

/-- Take a word if it is the current token. -/
def eatWord (text : String) : Parse Bool := eat (.word text)

/-- Take a mark or stop. -/
def expectMark (text : String) : Parse Unit := do
  if !(← eatMark text) then fail (.expected text (← currentShown))

/-- Take a word or stop. -/
def expectWord (text : String) : Parse Unit := do
  if !(← eatWord text) then fail (.expected text (← currentShown))

/-- Stop because of the current token, naming what was due. -/
def unexpected (due : String) : Parse α := do
  let found ← currentShown
  fail (.unexpected found due)

/-- Whether a statement may end before the current token. -/
def atEnd : Parse Bool := do
  match ← current with
  | none => return true
  | some (.mark ";") => return true
  | some (.mark "\x7d") => return true
  | some _ => onFreshLine

/-- End a statement, with a semicolon or without. -/
def eatEnd : Parse Bool := do
  if ← eatMark ";" then return true else atEnd

/-- End a statement or stop. -/
def expectEnd : Parse Unit := do
  if !(← eatEnd) then fail (.expected ";" (← currentShown))

/-- Whether the source ends here. A broken token stops the parser. -/
def atEof : Parse Bool := return (← readable).isNone

/-- Run a parser in a changed mode. -/
def within (change : Mode → Mode) (action : Parse α) : Parse α := fun s =>
  match action { s with mode := change s.mode } with
  | .ok a now => .ok a { now with mode := s.mode }
  | .error fault now => .error fault { now with mode := s.mode }

/-- Run a parser in a type. -/
def typeMode (action : Parse α) : Parse α := within ({ · with inType := true }) action

/-- Run a parser that may not apply. When it fails or finds nothing, nothing was taken. -/
def attempt (action : Parse (Option α)) : Parse (Option α) := fun s =>
  match action { s with mode := { s.mode with quiet := true } } with
  | .ok (some a) now => .ok (some a) { now with mode := { now.mode with quiet := s.mode.quiet } }
  | _ => .ok none s

/-- Run a parser to learn what comes next, and take nothing. -/
def lookAhead (action : Parse α) : Parse α := fun s =>
  match action { s with mode := { s.mode with quiet := true } } with
  | .ok a _ => .ok a s
  | .error fault _ => .error fault s

/-- Run a parser over and over until it finds nothing more. -/
def gatherFor : Nat → Parse (Option α) → Parse (List α)
  | 0, _ => fail .exhausted
  | budget + 1, item => do
    match ← item with
    | none => return []
    | some a => return a :: (← gatherFor budget item)

/-- Run a parser until it finds nothing more, as often as there are tokens. -/
def gather (item : Parse (Option α)) : Parse (List α) := do
  gatherFor (← get).budget item

/-- Run a step over and over on a value until it tells to stop. -/
def iterateFor : Nat → (α → Parse (α × Bool)) → α → Parse α
  | 0, _, _ => fail .exhausted
  | budget + 1, step, a => do
    match ← step a with
    | (a, false) => return a
    | (a, true) => iterateFor budget step a

/-- Run a step on a value until it tells to stop, as often as there are tokens. -/
def iterate (step : α → Parse (α × Bool)) (a : α) : Parse α := do
  iterateFor (← get).budget step a

/-- Run an action as long as it tells to go on. -/
def loop (step : Parse Bool) : Parse Unit := iterate (fun _ => do return ((), ← step)) ()

end Parse

end SchemaGuards.Syntax
