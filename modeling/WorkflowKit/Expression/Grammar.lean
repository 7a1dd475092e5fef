/-
# The grammar of expressions

From the loosest to the tightest: a conditional or `lambda`; `or`; `and`; `not`; comparisons;
`|`; `^`; `&`; shifts; sums; products; signs; powers; `await`; attributes, calls and subscripts;
atoms.  Operators between numbers group to the left, powers to the right, and comparisons form
chains.

Every reader takes tokens from the front and gives back what it has read, and the rest.  The first
argument bounds the depth of the calls.
-/

import WorkflowKit.Expression.Formatted
import WorkflowKit.Expression.Token.List

namespace WorkflowKit
namespace Expression

/-- The tokens behind a mark. -/
def behind? (m : Mark) : List Token → Option (List Token)
  | .mark k :: ts => if k = m then some ts else none
  | _ => none

/-- The comparison at the front of tokens. -/
def comparison? : List Token → Option (Comparison × List Token)
  | .mark .eq :: ts => some (.eq, ts)
  | .mark .ne :: ts => some (.ne, ts)
  | .mark .lt :: ts => some (.lt, ts)
  | .mark .le :: ts => some (.le, ts)
  | .mark .gt :: ts => some (.gt, ts)
  | .mark .ge :: ts => some (.ge, ts)
  | .word .inWord :: ts => some (.isIn, ts)
  | .word .notWord :: .word .inWord :: ts => some (.notIn, ts)
  | .word .isWord :: .word .notWord :: ts => some (.notSame, ts)
  | .word .isWord :: ts => some (.same, ts)
  | _ => none

/-- The operators between numbers, level by level, the loosest first. -/
def binaryLevels : List (List Mark) :=
  [[.bar], [.caret], [.ampersand], [.shiftLeft, .shiftRight], [.plus, .minus],
    [.star, .slash, .doubleSlash, .percent, .atSign]]

/-- The operator of a level at the front of tokens. -/
def operator? (level : List Mark) : List Token → Option (List Token)
  | .mark m :: ts => if level.contains m then some ts else none
  | _ => none

/-- The sign at the front of tokens. -/
def sign? : List Token → Option (Sign × List Token)
  | .mark .plus :: ts => some (.plus, ts)
  | .mark .minus :: ts => some (.minus, ts)
  | .mark .tilde :: ts => some (.invert, ts)
  | _ => none

/-- Whether a tree stands for the items of another one. -/
def isStarred : Expr → Bool
  | .other .starred _ => true
  | _ => false

mutual

/-- Whether values can be assigned to a tree. -/
def isTarget : Expr → Bool
  | .name _ => true
  | .member _ _ => true
  | .other .subscript _ => true
  | .tuple es => areTargets es
  | .list es => areTargets es
  | _ => false

/-- Whether values can be assigned to the items of a list or tuple. -/
def areTargets : List Expr → Bool
  | [] => true
  | .other .starred [e] :: es => isTarget e && areTargets es
  | e :: es => isTarget e && areTargets es

end

/-- Which parameters may come next in a list of parameters. -/
structure Parameters where
  /-- Whether there is a parameter already. -/
  some : Bool
  /-- Whether `/` is passed. -/
  slash : Bool
  /-- Whether the last parameter had a default. -/
  default : Bool
  /-- Whether `*` is passed. -/
  star : Bool

/-- Which arguments may come next in a call. -/
inductive Arguments
  /-- The first one. -/
  | first
  /-- All kinds. -/
  | all
  /-- Arguments by name, and the items or entries of a collection. -/
  | named
  /-- Arguments by name, and the entries of a mapping. -/
  | entries
  deriving DecidableEq

/-- Neighbouring texts as one, and no empty ones. -/
def joinTexts : List Piece → List Piece
  | [] => []
  | .text s :: ps =>
    match joinTexts ps with
    | .text t :: rest => .text (s ++ t) :: rest
    | rest => if s.isEmpty then rest else .text s :: rest
  | p :: ps => p :: joinTexts ps

/-- The text of several texts. -/
def joinedText (ps : List Piece) : Text :=
  ps.foldl (fun acc p => match p with
    | .text s => acc ++ s
    | _ => acc) ""

/-- A call with these arguments, each with whether it is one by name. -/
def callOf (e : Expr) (es : List (Bool × Expr)) : Expr :=
  .call e ((es.takeWhile fun a => !a.1).map Prod.snd) ((es.dropWhile fun a => !a.1).map Prod.snd)

/-- The texts between quotes at the front of tokens. -/
def quotations : List Token → List Quotation × List Token
  | .quotation q :: ts => (q :: (quotations ts).1, (quotations ts).2)
  | ts => ([], ts)

mutual

/-- An expression. -/
def expression : Nat → List Token → Option (Expr × List Token)
  | 0, _ => none
  | fuel + 1, .word .lambdaWord :: ts => do
    let (defaults, ts) ← parameters fuel ⟨false, false, false, false⟩ ts
    let ts ← behind? .colon ts
    let (body, ts) ← expression fuel ts
    some (.other .lambda (defaults ++ [body]), ts)
  | fuel + 1, ts => do
    let (e, ts) ← disjunction fuel ts
    match ts with
    | .word .ifWord :: ts => do
      let (c, ts) ← disjunction fuel ts
      match ts with
      | .word .elseWord :: ts => do
        let (f, ts) ← expression fuel ts
        some (.other .conditional [e, c, f], ts)
      | _ => none
    | ts => some (e, ts)

/-- Conjunctions with `or` between them. -/
def disjunction : Nat → List Token → Option (Expr × List Token)
  | 0, _ => none
  | fuel + 1, ts => do
    let (e, ts) ← conjunction fuel ts
    let (es, ts) ← moreConjunctions fuel ts
    some (if es.isEmpty then e else .any (e :: es), ts)

/-- What follows the first conjunction. -/
def moreConjunctions : Nat → List Token → Option (List Expr × List Token)
  | 0, _ => none
  | fuel + 1, .word .orWord :: ts => do
    let (e, ts) ← conjunction fuel ts
    let (es, ts) ← moreConjunctions fuel ts
    some (e :: es, ts)
  | _ + 1, ts => some ([], ts)

/-- Negations and comparisons with `and` between them. -/
def conjunction : Nat → List Token → Option (Expr × List Token)
  | 0, _ => none
  | fuel + 1, ts => do
    let (e, ts) ← inversion fuel ts
    let (es, ts) ← moreInversions fuel ts
    some (if es.isEmpty then e else .all (e :: es), ts)

/-- What follows the first negation or comparison. -/
def moreInversions : Nat → List Token → Option (List Expr × List Token)
  | 0, _ => none
  | fuel + 1, .word .andWord :: ts => do
    let (e, ts) ← inversion fuel ts
    let (es, ts) ← moreInversions fuel ts
    some (e :: es, ts)
  | _ + 1, ts => some ([], ts)

/-- A negation or a comparison. -/
def inversion : Nat → List Token → Option (Expr × List Token)
  | 0, _ => none
  | fuel + 1, .word .notWord :: ts => do
    let (e, ts) ← inversion fuel ts
    some (.signed .not e, ts)
  | fuel + 1, ts => do
    let (e, ts) ← binary fuel binaryLevels ts
    let (rest, ts) ← comparisons fuel ts
    some (if rest.isEmpty then e else .compare e rest, ts)

/-- What follows the first operand of a chain of comparisons. -/
def comparisons : Nat → List Token → Option (List (Comparison × Expr) × List Token)
  | 0, _ => none
  | fuel + 1, ts =>
    match comparison? ts with
    | none => some ([], ts)
    | some (c, ts) => do
      let (e, ts) ← binary fuel binaryLevels ts
      let (rest, ts) ← comparisons fuel ts
      some ((c, e) :: rest, ts)

/-- Operators between numbers, of these levels. -/
def binary : Nat → List (List Mark) → List Token → Option (Expr × List Token)
  | 0, _, _ => none
  | fuel + 1, [], ts => factor fuel ts
  | fuel + 1, level :: tighter, ts => do
    let (e, ts) ← binary fuel tighter ts
    moreOperands fuel level tighter e ts

/-- What follows the operand `left` of the operators of a level. -/
def moreOperands :
    Nat → List Mark → List (List Mark) → Expr → List Token → Option (Expr × List Token)
  | 0, _, _, _, _ => none
  | fuel + 1, level, tighter, left, ts =>
    match operator? level ts with
    | none => some (left, ts)
    | some ts => do
      let (right, ts) ← binary fuel tighter ts
      moreOperands fuel level tighter (.other .binary [left, right]) ts

/-- A sign and its operand, or a power. -/
def factor : Nat → List Token → Option (Expr × List Token)
  | 0, _ => none
  | fuel + 1, ts =>
    match sign? ts with
    | some (s, ts) => do
      let (e, ts) ← factor fuel ts
      some (.signed s e, ts)
    | none => do
      let (e, ts) ← awaited fuel ts
      match behind? .power ts with
      | none => some (e, ts)
      | some ts => do
        let (f, ts) ← factor fuel ts
        some (.other .binary [e, f], ts)

/-- An operand, for whose result may be waited. -/
def awaited : Nat → List Token → Option (Expr × List Token)
  | 0, _ => none
  | fuel + 1, .word .awaitWord :: ts => do
    let (e, ts) ← primary fuel ts
    some (.other .await [e], ts)
  | fuel + 1, ts => primary fuel ts

/-- An atom with its attributes, calls and subscripts. -/
def primary : Nat → List Token → Option (Expr × List Token)
  | 0, _ => none
  | fuel + 1, ts => do
    let (e, ts) ← atom fuel ts
    trailers fuel e ts

/-- The attributes, calls and subscripts of `e`. -/
def trailers : Nat → Expr → List Token → Option (Expr × List Token)
  | 0, _, _ => none
  | fuel + 1, e, .mark .dot :: ts =>
    match ts with
    | .name x :: ts => trailers fuel (.member e x) ts
    | _ => none
  | fuel + 1, e, .mark .leftParen :: ts => do
    let (es, ts) ← arguments fuel .first ts
    trailers fuel (callOf e es) ts
  | fuel + 1, e, .mark .leftBracket :: ts => do
    let (es, ts) ← slices fuel ts
    trailers fuel (.other .subscript (e :: es)) ts
  | _ + 1, e, ts => some (e, ts)

/-- A name, a constant, or a collection. -/
def atom : Nat → List Token → Option (Expr × List Token)
  | 0, _ => none
  | _ + 1, .name x :: ts => some (.name x, ts)
  | _ + 1, .word .trueWord :: ts => some (.constant (.bool true), ts)
  | _ + 1, .word .falseWord :: ts => some (.constant (.bool false), ts)
  | _ + 1, .word .noneWord :: ts => some (.constant .null, ts)
  | _ + 1, .numeral n :: ts => some (.constant n.constant, ts)
  | _ + 1, .mark .ellipsis :: ts => some (.constant .ellipsis, ts)
  | fuel + 1, .quotation q :: ts => do
    let (qs, ts) := quotations ts
    let e ← quoted fuel (q :: qs)
    some (e, ts)
  | fuel + 1, .mark .leftParen :: ts => parenthesized fuel ts
  | fuel + 1, .mark .leftBracket :: ts => bracketed fuel ts
  | fuel + 1, .mark .leftBrace :: ts => braced fuel ts
  | _ + 1, _ => none

/-- Texts between quotes one after the other. -/
def quoted : Nat → List Quotation → Option Expr
  | 0, _ => none
  | fuel + 1, qs =>
    if qs.all Quotation.bytes then
      if qs.all Quotation.holdsBytes then some (.constant .bytes) else none
    else do
      let ps ← qs.mapM Quotation.pieces?
      if qs.any Quotation.formatted then do
        let es ← pieces fuel (joinTexts ps.flatten)
        some (.other .formatted es)
      else some (.constant (.text (joinedText ps.flatten)))

/-- The pieces of a formatted text. -/
def pieces : Nat → List Piece → Option (List Expr)
  | 0, _ => none
  | _ + 1, [] => some []
  | fuel + 1, .text s :: ps => do
    let es ← pieces fuel ps
    some (.constant (.text s) :: es)
  | fuel + 1, .expression cs :: ps => do
    let ts ← tokens? ('(' :: (cs ++ [')']))
    let (e, ts) ← atom fuel ts
    if ts.isEmpty then do
      let es ← pieces fuel ps
      some (e :: es)
    else none
  | fuel + 1, .formatEnd :: ps => pieces fuel ps

/-- An expression that may get a name. -/
def named : Nat → List Token → Option (Expr × List Token)
  | 0, _ => none
  | fuel + 1, .name x :: .mark .colonEq :: ts => do
    let (e, ts) ← expression fuel ts
    some (.other .named [.name x, e], ts)
  | fuel + 1, ts => expression fuel ts

/-- An item of a list: an expression, or the items of another list. -/
def item : Nat → List Token → Option (Expr × List Token)
  | 0, _ => none
  | fuel + 1, .mark .star :: ts => do
    let (e, ts) ← binary fuel binaryLevels ts
    some (.other .starred [e], ts)
  | fuel + 1, ts => named fuel ts

/-- The items up to a closing bracket, behind the opening one or a comma. -/
def items : Nat → Mark → List Token → Option (List Expr × List Token)
  | 0, _, _ => none
  | fuel + 1, close, ts =>
    match behind? close ts with
    | some ts => some ([], ts)
    | none => do
      let (e, ts) ← item fuel ts
      let (es, ts) ← moreItems fuel close ts
      some (e :: es, ts)

/-- The items up to a closing bracket, behind an item. -/
def moreItems : Nat → Mark → List Token → Option (List Expr × List Token)
  | 0, _, _ => none
  | fuel + 1, close, ts =>
    match behind? .comma ts with
    | some ts => items fuel close ts
    | none => (behind? close ts).map fun ts => ([], ts)

/-- What stands behind an opening parenthesis, up to the closing one. -/
def parenthesized : Nat → List Token → Option (Expr × List Token)
  | 0, _ => none
  | _ + 1, .mark .rightParen :: ts => some (.tuple [], ts)
  | fuel + 1, .word .yieldWord :: ts => do
    let (e, ts) ← yielded fuel ts
    let ts ← behind? .rightParen ts
    some (e, ts)
  | fuel + 1, ts => do
    let (e, ts) ← item fuel ts
    match ts with
    | .mark .comma :: ts => do
      let (es, ts) ← items fuel .rightParen ts
      some (.tuple (e :: es), ts)
    | .mark .rightParen :: ts => if isStarred e then none else some (e, ts)
    | ts => computed fuel .generator .rightParen e ts

/-- What stands behind an opening bracket, up to the closing one. -/
def bracketed : Nat → List Token → Option (Expr × List Token)
  | 0, _ => none
  | _ + 1, .mark .rightBracket :: ts => some (.list [], ts)
  | fuel + 1, ts => do
    let (e, ts) ← item fuel ts
    match ts with
    | .word .forWord :: _ => computed fuel .listOf .rightBracket e ts
    | .word .asyncWord :: _ => computed fuel .listOf .rightBracket e ts
    | ts => do
      let (es, ts) ← moreItems fuel .rightBracket ts
      some (.list (e :: es), ts)

/-- What stands behind an opening brace, up to the closing one. -/
def braced : Nat → List Token → Option (Expr × List Token)
  | 0, _ => none
  | fuel + 1, ts =>
    match ts with
    | .mark .rightBrace :: _ | .mark .power :: _ => do
      let (es, ts) ← entries fuel ts
      some (.other .dict es, ts)
    | .mark .star :: _ | .name _ :: .mark .colonEq :: _ => do
      let (e, ts) ← item fuel ts
      setFrom fuel e ts
    | ts => do
      let (k, ts) ← expression fuel ts
      match behind? .colon ts with
      | none => setFrom fuel k ts
      | some ts => do
        let (v, ts) ← expression fuel ts
        match ts with
        | .word .forWord :: _ | .word .asyncWord :: _ => do
          let (es, ts) ← clauses fuel ts
          let ts ← behind? .rightBrace ts
          some (.other .dictOf (k :: v :: es), ts)
        | ts => do
          let (es, ts) ← moreEntries fuel ts
          some (.other .dict (k :: v :: es), ts)

/-- A set whose first member is `e`. -/
def setFrom : Nat → Expr → List Token → Option (Expr × List Token)
  | 0, _, _ => none
  | fuel + 1, e, ts =>
    match ts with
    | .word .forWord :: _ | .word .asyncWord :: _ => computed fuel .setOf .rightBrace e ts
    | ts => do
      let (es, ts) ← moreItems fuel .rightBrace ts
      some (.other .set (e :: es), ts)

/-- The entries of a mapping up to the closing brace, behind the opening one or a comma. -/
def entries : Nat → List Token → Option (List Expr × List Token)
  | 0, _ => none
  | _ + 1, .mark .rightBrace :: ts => some ([], ts)
  | fuel + 1, .mark .power :: ts => do
    let (e, ts) ← binary fuel binaryLevels ts
    let (es, ts) ← moreEntries fuel ts
    some (e :: es, ts)
  | fuel + 1, ts => do
    let (k, ts) ← expression fuel ts
    let ts ← behind? .colon ts
    let (v, ts) ← expression fuel ts
    let (es, ts) ← moreEntries fuel ts
    some (k :: v :: es, ts)

/-- The entries of a mapping up to the closing brace, behind an entry. -/
def moreEntries : Nat → List Token → Option (List Expr × List Token)
  | 0, _ => none
  | fuel + 1, ts =>
    match behind? .comma ts with
    | some ts => entries fuel ts
    | none => (behind? .rightBrace ts).map fun ts => ([], ts)

/-- A collection whose items `e` are computed one by one. -/
def computed : Nat → Form → Mark → Expr → List Token → Option (Expr × List Token)
  | 0, _, _, _, _ => none
  | fuel + 1, form, close, e, ts =>
    if isStarred e then none
    else do
      let (es, ts) ← clauses fuel ts
      let ts ← behind? close ts
      some (.other form (e :: es), ts)

/-- The clauses of a computed collection; there is at least one. -/
def clauses : Nat → List Token → Option (List Expr × List Token)
  | 0, _ => none
  | fuel + 1, .word .asyncWord :: .word .forWord :: ts => clause fuel ts
  | fuel + 1, .word .forWord :: ts => clause fuel ts
  | _ + 1, _ => none

/-- A clause behind `for`, and the clauses after it. -/
def clause : Nat → List Token → Option (List Expr × List Token)
  | 0, _ => none
  | fuel + 1, ts => do
    let (xs, ts) ← targets fuel ts
    match ts with
    | .word .inWord :: ts => do
      let (e, ts) ← disjunction fuel ts
      let (cs, ts) ← conditions fuel ts
      match ts with
      | .word .forWord :: _ | .word .asyncWord :: _ => do
        let (es, ts) ← clauses fuel ts
        some (xs ++ e :: cs ++ es, ts)
      | ts => some (xs ++ e :: cs, ts)
    | _ => none

/-- The conditions of a clause. -/
def conditions : Nat → List Token → Option (List Expr × List Token)
  | 0, _ => none
  | fuel + 1, .word .ifWord :: ts => do
    let (e, ts) ← disjunction fuel ts
    let (es, ts) ← conditions fuel ts
    some (e :: es, ts)
  | _ + 1, ts => some ([], ts)

/-- The targets of a clause, up to `in`. -/
def targets : Nat → List Token → Option (List Expr × List Token)
  | 0, _ => none
  | fuel + 1, ts => do
    let (e, ts) ← target fuel ts
    match ts with
    | .mark .comma :: .word .inWord :: ts => some ([e], .word .inWord :: ts)
    | .mark .comma :: ts => do
      let (es, ts) ← targets fuel ts
      some (e :: es, ts)
    | ts => some ([e], ts)

/-- A target of a clause. -/
def target : Nat → List Token → Option (Expr × List Token)
  | 0, _ => none
  | fuel + 1, .mark .star :: ts => do
    let (e, ts) ← primary fuel ts
    if isTarget e then some (.other .starred [e], ts) else none
  | fuel + 1, ts => do
    let (e, ts) ← primary fuel ts
    if isTarget e then some (e, ts) else none

/-- What is handed out, behind `yield`. -/
def yielded : Nat → List Token → Option (Expr × List Token)
  | 0, _ => none
  | fuel + 1, .word .fromWord :: ts => do
    let (e, ts) ← expression fuel ts
    some (.other .yieldFrom [e], ts)
  | _ + 1, .mark .rightParen :: ts => some (.other .yield [], .mark .rightParen :: ts)
  | fuel + 1, ts => do
    let (es, ts) ← yieldedItems fuel ts
    some (.other .yield es, ts)

/-- A value that is handed out, or the items of a list. -/
def yieldedItem : Nat → List Token → Option (Expr × List Token)
  | 0, _ => none
  | fuel + 1, .mark .star :: ts => do
    let (e, ts) ← binary fuel binaryLevels ts
    some (.other .starred [e], ts)
  | fuel + 1, ts => expression fuel ts

/-- The values that are handed out, up to a closing parenthesis. -/
def yieldedItems : Nat → List Token → Option (List Expr × List Token)
  | 0, _ => none
  | fuel + 1, ts => do
    let (e, ts) ← yieldedItem fuel ts
    match ts with
    | .mark .comma :: .mark .rightParen :: ts => some ([e], .mark .rightParen :: ts)
    | .mark .comma :: ts => do
      let (es, ts) ← yieldedItems fuel ts
      some (e :: es, ts)
    | ts => some ([e], ts)

/-- What stands between the brackets of a subscript, up to the closing one. -/
def slices : Nat → List Token → Option (List Expr × List Token)
  | 0, _ => none
  | fuel + 1, ts => do
    let (es, ts) ← slice fuel ts
    match ts with
    | .mark .rightBracket :: ts => some (es, ts)
    | .mark .comma :: .mark .rightBracket :: ts => some (es, ts)
    | .mark .comma :: ts => do
      let (fs, ts) ← slices fuel ts
      some (es ++ fs, ts)
    | _ => none

/-- One item, or one range, between the brackets of a subscript. -/
def slice : Nat → List Token → Option (List Expr × List Token)
  | 0, _ => none
  | fuel + 1, ts =>
    match ts with
    | .mark .star :: ts => do
      let (e, ts) ← expression fuel ts
      some ([.other .starred [e]], ts)
    | .name _ :: .mark .colonEq :: _ => do
      let (e, ts) ← named fuel ts
      some ([e], ts)
    | .mark .colon :: ts => bounds fuel ts
    | ts => do
      let (e, ts) ← expression fuel ts
      match ts with
      | .mark .colon :: ts => do
        let (es, ts) ← bounds fuel ts
        some (e :: es, ts)
      | ts => some ([e], ts)

/-- The upper bound and the step of a range, behind its first colon. -/
def bounds : Nat → List Token → Option (List Expr × List Token)
  | 0, _ => none
  | fuel + 1, ts => do
    let (es, ts) ← bound fuel ts
    match ts with
    | .mark .colon :: ts => do
      let (fs, ts) ← bound fuel ts
      some (es ++ fs, ts)
    | ts => some (es, ts)

/-- A bound of a range, which may be missing. -/
def bound : Nat → List Token → Option (List Expr × List Token)
  | 0, _ => none
  | fuel + 1, ts =>
    match ts with
    | .mark .colon :: _ | .mark .comma :: _ | .mark .rightBracket :: _ => some ([], ts)
    | ts => do
      let (e, ts) ← expression fuel ts
      some ([e], ts)

/-- The arguments of a call up to the closing parenthesis, behind the opening one or a comma, each
with whether it is one by name. -/
def arguments : Nat → Arguments → List Token → Option (List (Bool × Expr) × List Token)
  | 0, _, _ => none
  | fuel + 1, which, ts =>
    match ts with
    | .mark .rightParen :: ts => some ([], ts)
    | .mark .star :: ts =>
      if which = .entries then none
      else do
        let (e, ts) ← expression fuel ts
        let (es, ts) ← moreArguments fuel (if which = .named then .named else .all) ts
        some ((false, .other .starred [e]) :: es, ts)
    | .mark .power :: ts => do
      let (e, ts) ← expression fuel ts
      let (es, ts) ← moreArguments fuel .entries ts
      some ((true, e) :: es, ts)
    | .name _ :: .mark .assign :: ts => do
      let (e, ts) ← expression fuel ts
      let (es, ts) ← moreArguments fuel (if which = .entries then .entries else .named) ts
      some ((true, e) :: es, ts)
    | ts =>
      if which = .named ∨ which = .entries then none
      else do
        let (e, ts) ← named fuel ts
        match ts with
        | .word .forWord :: _ | .word .asyncWord :: _ =>
          if which = .first then do
            let (g, ts) ← computed fuel .generator .rightParen e ts
            some ([(false, g)], ts)
          else none
        | ts => do
          let (es, ts) ← moreArguments fuel .all ts
          some ((false, e) :: es, ts)

/-- The arguments of a call up to the closing parenthesis, behind an argument. -/
def moreArguments : Nat → Arguments → List Token → Option (List (Bool × Expr) × List Token)
  | 0, _, _ => none
  | fuel + 1, which, ts =>
    match behind? .comma ts with
    | some ts => arguments fuel which ts
    | none => (behind? .rightParen ts).map fun ts => ([], ts)

/-- The defaults of the parameters up to a colon, which stays. -/
def parameters : Nat → Parameters → List Token → Option (List Expr × List Token)
  | 0, _, _ => none
  | fuel + 1, p, ts =>
    match ts with
    | .mark .colon :: _ => some ([], ts)
    | .name _ :: .mark .assign :: ts => do
      let (e, ts) ← expression fuel ts
      let (es, ts) ← moreParameters fuel { p with some := true, default := true } ts
      some (e :: es, ts)
    | .name _ :: ts =>
      if p.default && !p.star then none else moreParameters fuel { p with some := true } ts
    | .mark .slash :: ts =>
      if p.some && !p.slash && !p.star then moreParameters fuel { p with slash := true } ts
      else none
    | .mark .star :: .name _ :: ts =>
      if p.star then none else moreParameters fuel { p with star := true } ts
    | .mark .star :: .mark .comma :: .name x :: ts =>
      if p.star then none else parameters fuel { p with star := true } (.name x :: ts)
    | .mark .power :: .name _ :: .mark .comma :: ts => some ([], ts)
    | .mark .power :: .name _ :: ts => some ([], ts)
    | _ => none

/-- The defaults of the parameters up to a colon, behind a parameter. -/
def moreParameters : Nat → Parameters → List Token → Option (List Expr × List Token)
  | 0, _, _ => none
  | fuel + 1, p, ts =>
    match ts with
    | .mark .comma :: ts => parameters fuel p ts
    | .mark .colon :: ts => some ([], .mark .colon :: ts)
    | _ => none

end

/-- The expressions behind a comma, if the comma is not the last token of the line. -/
def moreExpressions : Nat → List Token → Option (List Expr × List Token)
  | 0, _ => none
  | _ + 1, [] => some ([], [])
  | _ + 1, .lineEnd :: ts => some ([], .lineEnd :: ts)
  | fuel + 1, ts => do
    let (e, ts) ← expression fuel ts
    match ts with
    | .mark .comma :: ts => do
      let (es, ts) ← moreExpressions fuel ts
      some (e :: es, ts)
    | ts => some ([e], ts)

/-- The tree of a line of tokens: one expression, or several with commas as a tuple. -/
def line? (fuel : Nat) (ts : List Token) : Option (Expr × List Token) := do
  let (e, ts) ← expression fuel ts
  match ts with
  | .mark .comma :: ts => do
    let (es, ts) ← moreExpressions fuel ts
    some (.tuple (e :: es), ts)
  | ts => some (e, ts)

/-- A depth of calls that suffices for a text of some length. -/
def callDepth (length : Nat) : Nat := 64 * (length + 2)

/-- The tree of a text in normal form. -/
def tree? (cs : List Char) : Option Expr := do
  let ts ← tokens? (Text.universalNewlines cs)
  let (e, ts) ← line? (callDepth cs.length) ts
  if ts.all (· = .lineEnd) then some e else none

end Expression
end WorkflowKit
