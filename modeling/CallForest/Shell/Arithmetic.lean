import CallForest.Shell.Numeral
import CallForest.Shell.Syntax

/-! # Arithmetic expressions of shell scripts

An expression computes with integers of 64 bits and with variables, which it may also assign to.
What an operator does not need is not computed.

* `Shell.Expression`: expressions.
* `Shell.Expression.parse`: reads an expression.
* `Shell.Expression.evaluate`: the value of an expression. -/

namespace CallForest

namespace Shell

/-- An operator between two integers. -/
inductive BinaryOp where
  /-- The sum. -/
  | add
  /-- The difference. -/
  | subtract
  /-- The product. -/
  | multiply
  /-- The quotient, rounded towards zero. -/
  | divide
  /-- What the quotient leaves. -/
  | remainder
  /-- The bits moved to the left. -/
  | shiftLeft
  /-- The bits moved to the right. -/
  | shiftRight
  /-- Whether the first is less. -/
  | less
  /-- Whether the first is not greater. -/
  | lessEqual
  /-- Whether the first is greater. -/
  | greater
  /-- Whether the first is not less. -/
  | greaterEqual
  /-- Whether both are the same. -/
  | equal
  /-- Whether both differ. -/
  | unequal
  /-- The bits that both have. -/
  | bitAnd
  /-- The bits that one of them has. -/
  | bitXor
  /-- The bits that any of them has. -/
  | bitOr
  deriving DecidableEq, Repr

/-- An operator in front of an integer. -/
inductive UnaryOp where
  /-- The opposite. -/
  | negate
  /-- Whether it is zero. -/
  | isZero
  /-- The other bits. -/
  | complement
  deriving DecidableEq, Repr

/-- An **expression**. -/
inductive Expression where
  /-- An integer. -/
  | number (value : Int)
  /-- The value of a variable. -/
  | named (name : Octets)
  /-- An operator in front of an expression. -/
  | unary (operator : UnaryOp) (operand : Expression)
  /-- An operator between two expressions. -/
  | binary (operator : BinaryOp) (left right : Expression)
  /-- Whether both are other than zero. -/
  | both (left right : Expression)
  /-- Whether any of them is other than zero. -/
  | either (left right : Expression)
  /-- One of two expressions. -/
  | conditional (test yes no : Expression)
  /-- A variable gets a value, which is joined to its old one by an operator if there is one. -/
  | assign (name : Octets) (operator : Option BinaryOp) (value : Expression)
  deriving DecidableEq, Repr

/-- Why a text is no expression, or has no value. -/
inductive ArithmeticFault where
  /-- An operand is missing. -/
  | wantsOperand
  /-- Something stands behind the expression. -/
  | wantsEnd
  /-- A parenthesis is not closed. -/
  | wantsParenthesis
  /-- The other case is missing. -/
  | wantsColon
  /-- Something is divided by zero. -/
  | zeroDivision
  deriving DecidableEq, Repr

/-- How a fault is reported. -/
def ArithmeticFault.message : ArithmeticFault → String
  | .wantsOperand => "expecting primary"
  | .wantsEnd => "expecting EOF"
  | .wantsParenthesis => "expecting ')'"
  | .wantsColon => "expecting ':'"
  | .zeroDivision => "division by zero"

namespace Expression

/-! ## Lexemes -/

/-- A piece of an expression. -/
inductive Lexeme where
  /-- An integer. -/
  | number (value : Int)
  /-- The name of a variable. -/
  | name (text : Octets)
  /-- An operator. -/
  | operator (text : String)
  /-- A character that is in no expression. -/
  | bad
  deriving DecidableEq, Repr

/-- The operators, longer ones first. -/
def operators : List String :=
  ["<<=", ">>=", "<<", ">>", "<=", ">=", "==", "!=", "&&", "||", "+=", "-=", "*=", "/=", "%=", "&=",
    "|=", "^=", "=", "+", "-", "*", "/", "%", "&", "|", "^", "<", ">", "!", "~", "(", ")", "?", ":"]

/-- The lexemes of a text, at most `fuel` of them. -/
def lexemes : Nat → Octets → List Lexeme
  | 0, _ | _, [] => []
  | fuel + 1, first :: rest =>
    let text := first :: rest
    if first = ' ' || first = '\t' || first = '\n' then lexemes fuel rest
    else if first.isDigit then
      let numeral := leadingNumeral true text
      .number (saturate numeral.value) :: lexemes fuel numeral.rest
    else if beginsName first then
      let (name, behind) := text.span inName
      .name name :: lexemes fuel behind
    else
      match operators.find? (·.toList.isPrefixOf text) with
      | some operator => .operator operator :: lexemes fuel (text.drop operator.length)
      | none => [.bad]

/-! ## Reading -/

/-- The operators between expressions by their ranks, the loosest ones first. -/
def ranks : List (List (String × BinaryOp)) := [
  [("|", .bitOr)], [("^", .bitXor)], [("&", .bitAnd)], [("==", .equal), ("!=", .unequal)],
  [("<", .less), ("<=", .lessEqual), (">", .greater), (">=", .greaterEqual)],
  [("<<", .shiftLeft), (">>", .shiftRight)], [("+", .add), ("-", .subtract)],
  [("*", .multiply), ("/", .divide), ("%", .remainder)]]

/-- The operators that assign. -/
def assigning : List (String × Option BinaryOp) := [
  ("=", none), ("+=", some .add), ("-=", some .subtract), ("*=", some .multiply),
  ("/=", some .divide), ("%=", some .remainder), ("<<=", some .shiftLeft),
  (">>=", some .shiftRight), ("&=", some .bitAnd), ("^=", some .bitXor), ("|=", some .bitOr)]

/-- What is to be read. -/
inductive Level where
  /-- An expression that may assign. -/
  | assignment
  /-- An expression that may be one of two cases. -/
  | conditional
  /-- Expressions of which one may do. -/
  | either
  /-- Expressions that all have to do. -/
  | both
  /-- Operators of given ranks, the first of them the loosest. -/
  | ranked (ranks : List (List (String × BinaryOp)))
  /-- Operators of the first of some ranks behind an expression. -/
  | behind (ranks : List (List (String × BinaryOp))) (left : Expression)
  /-- An operand. -/
  | operand

/-- Reads an expression of a level. -/
def read : Nat → Level → List Lexeme → Except ArithmeticFault (Expression × List Lexeme)
  | 0, _, _ => .error .wantsOperand
  | fuel + 1, .assignment, lexemes =>
    match lexemes with
    | .name name :: .operator operator :: rest =>
      match assigning.lookup operator with
      | some joined => do
        let (value, rest) ← read fuel .assignment rest
        return (.assign name joined value, rest)
      | none => read fuel .conditional lexemes
    | _ => read fuel .conditional lexemes
  | fuel + 1, .conditional, lexemes => do
    let (test, rest) ← read fuel .either lexemes
    match rest with
    | .operator "?" :: rest =>
      let (yes, rest) ← read fuel .assignment rest
      match rest with
      | .operator ":" :: rest =>
        let (no, rest) ← read fuel .conditional rest
        return (.conditional test yes no, rest)
      | _ => .error .wantsColon
    | rest => return (test, rest)
  | fuel + 1, .either, lexemes => do
    let (left, rest) ← read fuel .both lexemes
    match rest with
    | .operator "||" :: rest =>
      let (right, rest) ← read fuel .either rest
      return (.either left right, rest)
    | rest => return (left, rest)
  | fuel + 1, .both, lexemes => do
    let (left, rest) ← read fuel (.ranked ranks) lexemes
    match rest with
    | .operator "&&" :: rest =>
      let (right, rest) ← read fuel .both rest
      return (.both left right, rest)
    | rest => return (left, rest)
  | fuel + 1, .ranked [], lexemes => read fuel .operand lexemes
  | fuel + 1, .ranked (rank :: tighter), lexemes => do
    let (left, rest) ← read fuel (.ranked tighter) lexemes
    read fuel (.behind (rank :: tighter) left) rest
  | _ + 1, .behind [] left, lexemes => .ok (left, lexemes)
  | fuel + 1, .behind (rank :: tighter) left, lexemes =>
    match lexemes with
    | .operator operator :: rest =>
      match rank.lookup operator with
      | some operator => do
        let (right, rest) ← read fuel (.ranked tighter) rest
        read fuel (.behind (rank :: tighter) (.binary operator left right)) rest
      | none => .ok (left, lexemes)
    | _ => .ok (left, lexemes)
  | fuel + 1, .operand, lexemes =>
    match lexemes with
    | .number value :: rest => .ok (.number value, rest)
    | .name name :: rest => .ok (.named name, rest)
    | .operator "(" :: rest => do
      let (inner, rest) ← read fuel .assignment rest
      match rest with
      | .operator ")" :: rest => return (inner, rest)
      | _ => .error .wantsParenthesis
    | .operator "+" :: rest => read fuel .operand rest
    | .operator "-" :: rest => do
      let (operand, rest) ← read fuel .operand rest
      return (.unary .negate operand, rest)
    | .operator "!" :: rest => do
      let (operand, rest) ← read fuel .operand rest
      return (.unary .isZero operand, rest)
    | .operator "~" :: rest => do
      let (operand, rest) ← read fuel .operand rest
      return (.unary .complement operand, rest)
    | _ => .error .wantsOperand

/-- Reads an **expression**. -/
def parse (text : Octets) : Except ArithmeticFault Expression := do
  let lexemes := lexemes (text.length + 1) text
  let (expression, rest) ← read (lexemes.length * 16 + 16) .assignment lexemes
  if rest.isEmpty then return expression else .error .wantsEnd

/-! ## Values -/

/-- One for what holds, and zero for what does not. -/
def truth (holds : Bool) : Int := if holds then 1 else 0

/-- Integers as words of bits. -/
def onBits (operation : Int64 → Int64 → Int64) (left right : Int) : Int :=
  (operation (Int64.ofInt left) (Int64.ofInt right)).toInt

/-- The value of an operator between two integers. -/
def apply (left right : Int) : BinaryOp → Except ArithmeticFault Int
  | .add => .ok (wrap (left + right))
  | .subtract => .ok (wrap (left - right))
  | .multiply => .ok (wrap (left * right))
  | .divide => if right = 0 then .error .zeroDivision else .ok (wrap (left.tdiv right))
  | .remainder => if right = 0 then .error .zeroDivision else .ok (left.tmod right)
  | .shiftLeft => .ok (onBits (· <<< ·) left right)
  | .shiftRight => .ok (onBits (· >>> ·) left right)
  | .less => .ok (truth (left < right))
  | .lessEqual => .ok (truth (left ≤ right))
  | .greater => .ok (truth (right < left))
  | .greaterEqual => .ok (truth (right ≤ left))
  | .equal => .ok (truth (left = right))
  | .unequal => .ok (truth (left ≠ right))
  | .bitAnd => .ok (onBits (· &&& ·) left right)
  | .bitXor => .ok (onBits Int64.xor left right)
  | .bitOr => .ok (onBits (· ||| ·) left right)

/-- The value of an operator in front of an integer. -/
def UnaryOp.apply (operand : Int) : UnaryOp → Int
  | .negate => wrap (-operand)
  | .isZero => truth (operand = 0)
  | .complement => -operand - 1

/-- What an expression needs in order to be evaluated. -/
structure Variables (m : Type → Type) where
  /-- The value of a variable. -/
  read : Octets → m Int
  /-- Gives a value to a variable. -/
  write : Octets → Int → m Unit
  /-- Reports a fault. -/
  fail : ArithmeticFault → m Int

/-- The **value of an expression**. -/
def evaluate {m : Type → Type} [Monad m] (store : Variables m) : Expression → m Int
  | .number value => return value
  | .named name => store.read name
  | .unary operator operand => return UnaryOp.apply (← evaluate store operand) operator
  | .binary operator left right => do
    let left ← evaluate store left
    let right ← evaluate store right
    match apply left right operator with
    | .ok value => return value
    | .error fault => store.fail fault
  | .both left right => do
    if (← evaluate store left) = 0 then return 0
    else return truth ((← evaluate store right) ≠ 0)
  | .either left right => do
    if (← evaluate store left) ≠ 0 then return 1
    else return truth ((← evaluate store right) ≠ 0)
  | .conditional test yes no => do
    if (← evaluate store test) ≠ 0 then evaluate store yes else evaluate store no
  | .assign name operator value => do
    let value ← evaluate store value
    let joined ← match operator with
      | none => pure (.ok value)
      | some operator => do
        let old ← store.read name
        pure (apply old value operator)
    match joined with
    | .ok value =>
      store.write name value
      return value
    | .error fault => store.fail fault

end Expression

end Shell

end CallForest
