import AssignScript.Cursor
import AssignScript.Decimal.Numeral
import AssignScript.Expr

/-!
# Reading expressions and scripts

The levels of an expression, from the loosest to the tightest: `or` and `xor`; `and`; `not`; one
comparison; `+`, `-` and `||`; `*` and `/`; the signs; and what has no operator outside. Operators of one
level group to the left, a comparison does not repeat, and the last branch of an `if` reaches as far as
it can.

## Main definitions

* `TokenStream`: the tokens not yet taken, and where the last one taken stopped;
* `Parser`: readers that keep the stream where an error leaves it;
* `Parser.expression`, `Parser.standalone`, `Parser.script`.

## Design notes

An expression is entered anew inside parentheses, branches and arguments, and so is the operand of `not`
and of a sign. Only these entries nest, and each may happen only so often inside one another. The readers
of one level of nesting therefore take the entries of the next level as an argument, and
`Parser.enter` ties the knot by recursion on the levels that are left. How the levels are counted is a matter of the
entries: the readers are given over any monad into which readers of single tokens can be lifted.
-/

namespace AssignScript

/-- The tokens not yet taken, of which there is always one: the last is never passed. -/
structure TokenStream where
  /-- The characters that the tokens were read from. -/
  source : List Char
  /-- The token to be taken next. -/
  current : PlacedToken
  /-- The tokens behind it. -/
  following : List PlacedToken
  /-- Where the last token taken stopped, if one was taken. -/
  before : Option Position
  deriving Repr

namespace TokenStream

/-- The stream of a text. -/
def ofText (text : String) : Except ParseError TokenStream := do
  match ← tokenize text with
  | [] => return ⟨text.toList, ⟨.endOfInput, .start, .start⟩, [], none⟩
  | t :: ts => return ⟨text.toList, t, ts, none⟩

/-- The stream behind the current token, which stays if it is the last. -/
def advance (s : TokenStream) : TokenStream :=
  match s.following with
  | [] => s
  | t :: ts => { s with current := t, following := ts, before := some s.current.stop }

/-- The span from a place to where the last token taken stopped. -/
def spanFrom (s : TokenStream) (start : Position) : Span :=
  .ofSource s.source start (s.before.getD start)

/-- The span from one place to another. -/
def spanBetween (s : TokenStream) (start stop : Position) : Span :=
  .ofSource s.source start stop

end TokenStream

/-- Readers of tokens. An error leaves the stream where it arose. -/
abbrev Parser (α : Type) := EStateM ParseError TokenStream α

namespace Parser

/-! ### Single tokens -/

/-- The token to be taken next. -/
def peek : Parser Token := do
  return (← get).current.token

/-- Where the token to be taken next starts. -/
def here : Parser Position := do
  return (← get).current.start

/-- Takes one token. -/
def skip : Parser Unit :=
  modify TokenStream.advance

/-- Fails at the current token. -/
def unexpected {α : Type} (expected : Expectation) : Parser α := do
  throw (.unexpectedToken expected (← peek) (← here))

/-- Takes a token that must be there. -/
def expect (t : Token) : Parser Unit := do
  if (← peek) = t then skip else unexpected (.token t)

/-- Takes a name that must be there. -/
def expectIdentifier : Parser String := do
  match ← peek with
  | .identifier name => skip; return name
  | _ => unexpected .identifier

/-- The span from a place to where the last token taken stopped. -/
def spanFrom (start : Position) : Parser Span := do
  return (← get).spanFrom start

/-- A bound on how often something that takes a token can still happen. -/
def remaining : Parser Nat := do
  return (← get).following.length + 1

/-! ### One level of nesting -/

/-- Where nesting is counted. -/
inductive Entry where
  /-- A whole expression: in parentheses, in a branch, or as an argument. -/
  | expression
  /-- The operand of `not`. -/
  | negated
  /-- The operand of a sign. -/
  | signed
  deriving DecidableEq, Repr

/-- An operation on two operands spans both. -/
def binary (op : BinaryOp) (left right : Expr) : Parser Expr := do
  return .binary ((← get).spanBetween left.span.start right.span.stop) op left right

/-- An operation on one operand spans from the operator to the operand's end. -/
def unary (op : UnaryOp) (start : Position) (operand : Expr) : Parser Expr := do
  return .unary ((← get).spanBetween start operand.span.stop) op operand

/-- The operators of the loosest level. -/
def disjunctive? : Token → Option BinaryOp
  | .keyword .or => some .or
  | .keyword .xor => some .xor
  | _ => none

/-- The operator of the second level. -/
def conjunctive? : Token → Option BinaryOp
  | .keyword .and => some .and
  | _ => none

/-- The comparison operators. -/
def comparative? : Token → Option BinaryOp
  | .mark .equal => some .eq
  | .mark .notEqual => some .ne
  | .mark .less => some .lt
  | .mark .lessEqual => some .le
  | .mark .greater => some .gt
  | .mark .greaterEqual => some .ge
  | _ => none

/-- The additive operators. -/
def additive? : Token → Option BinaryOp
  | .mark .plus => some .add
  | .mark .minus => some .sub
  | .mark .concat => some .concat
  | _ => none

/-- The multiplicative operators. -/
def multiplicative? : Token → Option BinaryOp
  | .mark .star => some .mul
  | .mark .slash => some .div
  | _ => none

/-- The signs. -/
def sign? : Token → Option UnaryOp
  | .mark .plus => some .plus
  | .mark .minus => some .minus
  | _ => none

/-- The constant that a number writes. Only digits make a whole number, which must fit 64 bits with a
    sign. -/
def numberLiteral (text : String) (start : Position) : Parser Literal :=
  if text.toList.any fun c => c == '.' || c == 'e' || c == 'E' then
    match Decimal.readFloat? text with
    | some x => return .number x
    | none => throw (.invalidNumber text start)
  else
    let n := Decimal.digitsValue text.toList
    if n ≤ Int64.maxValue.toInt then return .integer (Int64.ofInt n) else throw (.invalidNumber text start)

section Readers

variable {m : Type → Type} [Monad m] [MonadLiftT Parser m]

/-- Operators and operands that follow a first operand, grouped to the left. -/
def chainFrom (operator? : Token → Option BinaryOp) (operand : m Expr) :
    Nat → Expr → m Expr
  | 0, left => return left
  | fuel + 1, left => do
    match operator? (← peek) with
    | none => return left
    | some op =>
      skip
      let right ← operand
      chainFrom operator? operand fuel (← binary op left right)

/-- Operands with operators between, grouped to the left. -/
def chain (operator? : Token → Option BinaryOp) (operand : m Expr) : m Expr := do
  let left ← operand
  chainFrom operator? operand (← remaining) left

/-- One argument, or the placeholder of one that is left out. -/
def argument (nested : Entry → m Expr) : m Expr := do
  if (← peek) = .mark .underscore then
    let start ← here
    skip
    return .omitted (← spanFrom start)
  else nested .expression

/-- Arguments with commas between, at least one. -/
def argumentsWithin (nested : Entry → m Expr) : Nat → m (List Expr)
  | 0 => return []
  | fuel + 1 => do
    let first ← argument nested
    if (← peek) = .mark .comma then
      skip
      return first :: (← argumentsWithin nested fuel)
    else return [first]

/-- The arguments of a call, up to its closing parenthesis. -/
def arguments (nested : Entry → m Expr) : m (List Expr) := do
  if (← peek) = .mark .rightParen then return []
  else argumentsWithin nested (← remaining)

/-- A variable, or a call if a parenthesis follows its name. -/
def named (nested : Entry → m Expr) (name : String) (start : Position) : m Expr := do
  if (← peek) = .mark .leftParen then
    skip
    let args ← arguments nested
    expect (.mark .rightParen)
    return .call (← spanFrom start) name args
  else return .variable (← spanFrom start) name

/-- `if condition then expression else expression`, from behind the `if`. -/
def conditional (nested : Entry → m Expr) (start : Position) : m Expr := do
  let condition ← nested .expression
  expect (.keyword .thenWord)
  let thenBranch ← nested .expression
  expect (.keyword .elseWord)
  let elseBranch ← nested .expression
  return .conditional (← spanFrom start) condition thenBranch elseBranch

/-- What has no operator outside. -/
def primary (nested : Entry → m Expr) : m Expr := do
  let start ← here
  match ← peek with
  | .number text =>
    skip
    let literal ← numberLiteral text start
    return .literal (← spanFrom start) literal
  | .string content => skip; return .literal (← spanFrom start) (.string content)
  | .keyword .true => skip; return .literal (← spanFrom start) (.boolean true)
  | .keyword .false => skip; return .literal (← spanFrom start) (.boolean false)
  | .keyword .null => skip; return .literal (← spanFrom start) .null
  | .identifier name => skip; named nested name start
  | .mark .leftParen =>
    skip
    let inner ← nested .expression
    expect (.mark .rightParen)
    return .parens (← spanFrom start) inner
  | .keyword .ifWord => skip; conditional nested start
  | _ => unexpected .expression

/-- A sign with its operand, or what has none. -/
def signed (nested : Entry → m Expr) : m Expr := do
  match sign? (← peek) with
  | some op =>
    let start ← here
    skip
    unary op start (← nested .signed)
  | none => primary nested

/-- Products and quotients. -/
def multiplicative (nested : Entry → m Expr) : m Expr :=
  chain multiplicative? (signed nested)

/-- Sums, differences and joined texts. -/
def additive (nested : Entry → m Expr) : m Expr :=
  chain additive? (multiplicative nested)

/-- At most one comparison. -/
def comparison (nested : Entry → m Expr) : m Expr := do
  let left ← additive nested
  match comparative? (← peek) with
  | none => return left
  | some op =>
    skip
    let right ← additive nested
    binary op left right

/-- `not` with its operand, or what has none. -/
def negated (nested : Entry → m Expr) : m Expr := do
  if (← peek) = .keyword .not then
    let start ← here
    skip
    unary .not start (← nested .negated)
  else comparison nested

/-- Conjunctions. -/
def conjunctive (nested : Entry → m Expr) : m Expr :=
  chain conjunctive? (negated nested)

/-- Disjunctions, the loosest level. -/
def disjunctive (nested : Entry → m Expr) : m Expr :=
  chain disjunctive? (conjunctive nested)

/-- The reader of what is entered. -/
def Entry.reader (nested : Entry → m Expr) : Entry → m Expr
  | .expression => disjunctive nested
  | .negated => Parser.negated nested
  | .signed => Parser.signed nested

/-! ### Whole texts -/

/-- An expression up to the end of the text, with an optional semicolon. -/
def wholeExpression (expression : m Expr) : m Expr := do
  let e ← expression
  if (← peek) = .mark .semicolon then skip
  expect .endOfInput
  return e

/-- The next statement, without its semicolon. -/
def statement (expression : m Expr) : m Statement := do
  let start ← here
  let target ← expectIdentifier
  expect (.mark .assign)
  let e ← expression
  return ⟨target, e, ← spanFrom start⟩

/-- Statements up to the end of the text, at most `fuel` of them. -/
def statementsWithin (expression : m Expr) : Nat → m Script
  | 0 => return []
  | fuel + 1 => do
    if (← peek) = .endOfInput then return []
    else
      let first ← statement expression
      if (← peek) = .mark .semicolon then skip
      else if (← peek) ≠ .endOfInput then unexpected (.token (.mark .semicolon))
      return first :: (← statementsWithin expression fuel)

/-- A whole script; the last semicolon is optional. -/
def wholeScript (expression : m Expr) : m Script := do
  statementsWithin expression (← remaining)

end Readers

/-! ### All levels of nesting -/

/-- Enters an expression or operand when some levels of nesting are left of a limit. -/
def enter (limit : Nat) : Nat → Entry → Parser Expr
  | 0, _ => do throw (.nestingTooDeep limit (← here))
  | room + 1, entry => entry.reader (enter limit room)

/-- The next expression. -/
def expression (limit : Nat) : Parser Expr :=
  enter limit limit .expression

/-- An expression up to the end of the text, with an optional semicolon. -/
def standalone (limit : Nat) : Parser Expr :=
  wholeExpression (expression limit)

/-- A whole script; the last semicolon is optional. -/
def script (limit : Nat) : Parser Script :=
  wholeScript (expression limit)

/-- Runs a reader, giving its answer and the stream that it leaves. -/
def runOn {α : Type} (p : Parser α) (s : TokenStream) : Except ParseError α × TokenStream :=
  match p.run s with
  | .ok a s' => (.ok a, s')
  | .error e s' => (.error e, s')

/-- Runs a reader on a text. -/
def runText {α : Type} (p : Parser α) (text : String) : Except ParseError α := do
  let s ← TokenStream.ofText text
  (p.runOn s).1

end Parser

end AssignScript
