import ThemedShell.CommandLanguage.Syntax

/-!
# The command language: arithmetic

Arithmetic on integers of 64 bits, which wrap around. An expression is read into a tree first; when
the tree is evaluated, variables are looked up and may be assigned to.
-/
namespace ThemedShell.CommandLanguage.Arithmetic

open Text (Octets)

/-! ## Expressions -/

inductive Operator where
  | multiply | divide | modulo | add | subtract | shiftLeft | shiftRight
  | less | lessEqual | greater | greaterEqual | equal | notEqual
  | bitAnd | bitXor | bitOr
deriving DecidableEq, Repr

inductive Sign where
  | plus | minus | not | complement
deriving DecidableEq, Repr

inductive Expression where
  | number (n : Int)
  | name (name : Octets)
  | signed (sign : Sign) (e : Expression)
  | binary (op : Operator) (left right : Expression)
  | both (left right : Expression)
  | either (left right : Expression)
  | choice (test yes no : Expression)
  | assign (name : Octets) (op : Option Operator) (value : Expression)
deriving Repr, Inhabited

/-! ## Tokens -/

inductive Token where
  | number (n : Int)
  | name (name : Octets)
  | symbol (s : String)
deriving DecidableEq, Repr

/-- The symbols, longer ones before their beginnings. -/
def symbols : List String :=
  ["<<=", ">>=", "<<", ">>", "<=", ">=", "==", "!=", "&&", "||", "*=", "/=", "%=", "+=", "-=", "&=",
   "^=", "|=", "<", ">", "=", "!", "~", "&", "|", "^", "*", "/", "%", "+", "-", "?", ":", "(", ")"]

def digitValue (b : UInt8) : Nat :=
  let c := asChar b
  if c.isDigit then c.toNat - 48
  else if 'a' ≤ c ∧ c ≤ 'z' then c.toNat - 87
  else if 'A' ≤ c ∧ c ≤ 'Z' then c.toNat - 55
  else 99

/-- Reads digits of a base; gives the number and the rest. -/
def readDigits (base : Nat) (bytes : Octets) : Nat × Octets :=
  let digits := bytes.takeWhile fun b => digitValue b < base
  (digits.foldl (fun n b => n * base + digitValue b) 0, bytes.drop digits.length)

/-- A number in decimal, octal or hexadecimal notation. -/
def readNumber (bytes : Octets) : Nat × Octets :=
  match bytes with
  | a :: b :: c :: rest =>
    if asChar a == '0' && (asChar b == 'x' || asChar b == 'X') && digitValue c < 16 then
      readDigits 16 (c :: rest)
    else if asChar a == '0' then readDigits 8 bytes
    else readDigits 10 bytes
  | a :: _ => if asChar a == '0' then readDigits 8 bytes else readDigits 10 bytes
  | [] => (0, [])

/-- The largest number; larger literals become it. -/
def largest : Int := 9223372036854775807

/-- As many values has a number of the language. -/
def modulus : Nat := 18446744073709551616

def wrap (n : Int) : Int := Int.bmod n modulus

/-- The tokens of a text, or nothing if a byte belongs to none. -/
def tokens : Nat → Octets → Option (List Token)
  | 0, _ => none
  | _ + 1, [] => some []
  | fuel + 1, b :: rest =>
    if " \t\n".toList.contains (asChar b) then tokens fuel rest
    else if isDigit b then
      let (n, rest) := readNumber (b :: rest)
      (tokens fuel rest).map (.number (min n largest) :: ·)
    else if isNameStart b then
      let name := (b :: rest).takeWhile isNamePart
      (tokens fuel ((b :: rest).drop name.length)).map (.name name :: ·)
    else match symbols.find? fun s => (Text.encode s).isPrefixOf (b :: rest) with
      | some s => (tokens fuel ((b :: rest).drop s.length)).map (.symbol s :: ·)
      | none => (tokens fuel rest).map (.symbol "" :: ·)

/-! ## Reading -/

abbrev Reader := StateT (List Token) (Except String)

def peek : Reader (Option Token) := return (← get).head?

def skip : Reader Unit := modify List.tail

/-- Binary operators by how tightly they bind, the loosest first. -/
def levels : List (List (String × Operator)) :=
  [[("|", .bitOr)], [("^", .bitXor)], [("&", .bitAnd)],
   [("==", .equal), ("!=", .notEqual)],
   [("<", .less), ("<=", .lessEqual), (">", .greater), (">=", .greaterEqual)],
   [("<<", .shiftLeft), (">>", .shiftRight)],
   [("+", .add), ("-", .subtract)],
   [("*", .multiply), ("/", .divide), ("%", .modulo)]]

/-- Operators that assign. -/
def assignments : List (String × Option Operator) :=
  [("=", none), ("*=", some .multiply), ("/=", some .divide), ("%=", some .modulo),
   ("+=", some .add), ("-=", some .subtract), ("<<=", some .shiftLeft), (">>=", some .shiftRight),
   ("&=", some .bitAnd), ("^=", some .bitXor), ("|=", some .bitOr)]

def symbolIn {α : Type} (table : List (String × α)) : Option Token → Option α
  | some (.symbol s) => table.lookup s
  | _ => none

mutual

def readPrimary : Nat → Reader Expression
  | 0 => throw "expecting primary"
  | fuel + 1 => do
    match ← peek with
    | some (.number n) => skip; return .number n
    | some (.name name) => skip; return .name name
    | some (.symbol "(") =>
      skip
      let e ← readAssignment fuel
      if (← peek) ≠ some (.symbol ")") then throw "expecting ')'"
      skip
      return e
    | some (.symbol "+") => skip; return .signed .plus (← readPrimary fuel)
    | some (.symbol "-") => skip; return .signed .minus (← readPrimary fuel)
    | some (.symbol "!") => skip; return .signed .not (← readPrimary fuel)
    | some (.symbol "~") => skip; return .signed .complement (← readPrimary fuel)
    | _ => throw "expecting primary"

/-- Expressions with the operators of the given levels. -/
def readBinary : Nat → List (List (String × Operator)) → Reader Expression
  | 0, _ => throw "expecting primary"
  | fuel + 1, [] => readPrimary fuel
  | fuel + 1, level :: tighter => do
    readBinaryFrom fuel level tighter (← readBinary fuel tighter)

def readBinaryFrom : Nat → List (String × Operator) → List (List (String × Operator)) →
    Expression → Reader Expression
  | 0, _, _, _ => throw "expecting primary"
  | fuel + 1, level, tighter, left => do
    match symbolIn level (← peek) with
    | some op =>
      skip
      readBinaryFrom fuel level tighter (.binary op left (← readBinary fuel tighter))
    | none => return left

def readBoth : Nat → Reader Expression
  | 0 => throw "expecting primary"
  | fuel + 1 => do
    let left ← readBinary fuel levels
    if (← peek) = some (.symbol "&&") then
      skip
      return .both left (← readBoth fuel)
    else return left

def readEither : Nat → Reader Expression
  | 0 => throw "expecting primary"
  | fuel + 1 => do
    let left ← readBoth fuel
    if (← peek) = some (.symbol "||") then
      skip
      return .either left (← readEither fuel)
    else return left

def readChoice : Nat → Reader Expression
  | 0 => throw "expecting primary"
  | fuel + 1 => do
    let test ← readEither fuel
    if (← peek) = some (.symbol "?") then
      skip
      let yes ← readAssignment fuel
      if (← peek) ≠ some (.symbol ":") then throw "expecting ':'"
      skip
      return .choice test yes (← readChoice fuel)
    else return test

def readAssignment : Nat → Reader Expression
  | 0 => throw "expecting primary"
  | fuel + 1 => do
    match ← get with
    | .name name :: token :: rest =>
      match symbolIn assignments (some token) with
      | some op =>
        set rest
        return .assign name op (← readAssignment fuel)
      | none => readChoice fuel
    | _ => readChoice fuel

end

/-- The expression that a text holds; an empty text is zero. -/
def parse (bytes : Octets) : Except String Expression :=
  match tokens (bytes.length + 1) bytes with
  | none => .error "expecting primary"
  | some [] => .ok (.number 0)
  | some ts =>
    match (readAssignment (20 * (ts.length + 2))).run ts with
    | .error e => .error e
    | .ok (e, []) => .ok e
    | .ok (_, _) => .error "expecting EOF"

/-! ## Evaluating -/

/-- Why an expression has no value. -/
inductive Fault where
  | divisionByZero
  /-- The value of a variable is no number. -/
  | notNumber (value : Octets)
  | unset (name : Octets)
deriving Repr

/-- What has been assigned, the last assignment first. -/
abbrev Assigned := List (Octets × Int)

abbrev Evaluator := StateT Assigned (Except Fault)

def truth (b : Bool) : Int := if b then 1 else 0

def apply (op : Operator) (a b : Int) : Except Fault Int :=
  match op with
  | .multiply => .ok (wrap (a * b))
  | .divide => if b = 0 then .error .divisionByZero else .ok (wrap (a.tdiv b))
  | .modulo => if b = 0 then .error .divisionByZero else .ok (a.tmod b)
  | .add => .ok (wrap (a + b))
  | .subtract => .ok (wrap (a - b))
  | .shiftLeft => .ok (wrap (a * (Nat.pow 2 (b % 64).toNat : Nat)))
  | .shiftRight => .ok (a.fdiv (Nat.pow 2 (b % 64).toNat : Nat))
  | .less => .ok (truth (a < b))
  | .lessEqual => .ok (truth (a ≤ b))
  | .greater => .ok (truth (a > b))
  | .greaterEqual => .ok (truth (a ≥ b))
  | .equal => .ok (truth (a == b))
  | .notEqual => .ok (truth (a != b))
  | .bitAnd => .ok (BitVec.ofInt 64 a &&& BitVec.ofInt 64 b).toInt
  | .bitXor => .ok (BitVec.ofInt 64 a ^^^ BitVec.ofInt 64 b).toInt
  | .bitOr => .ok (BitVec.ofInt 64 a ||| BitVec.ofInt 64 b).toInt

/-- The number that a value is, with blanks around it and a sign before it. -/
def valueOf (value : Octets) : Except Fault Int :=
  let isBlank (b : UInt8) : Bool := " \t\n".toList.contains (asChar b)
  let body := ((value.dropWhile isBlank).reverse.dropWhile isBlank).reverse
  if body.isEmpty then .ok 0
  else
    let (negative, digits) := match body with
      | b :: rest =>
        if asChar b == '-' then (true, rest) else if asChar b == '+' then (false, rest)
        else (false, body)
      | [] => (false, [])
    match digits with
    | b :: _ =>
      if isDigit b then
        let (n, rest) := readNumber digits
        if rest.isEmpty then .ok (if negative then -(n : Int) else n) else .error (.notNumber value)
      else .error (.notNumber value)
    | [] => .error (.notNumber value)

/-- The value of an expression, where `lookup` gives those of variables. -/
def evaluate (lookup : Octets → Except Fault Int) : Expression → Evaluator Int
  | .number n => return n
  | .name name => do
    match (← get).lookup name with
    | some n => return n
    | none => lookup name
  | .signed sign e => do
    let n ← evaluate lookup e
    match sign with
    | .plus => return n
    | .minus => return wrap (-n)
    | .not => return truth (n == 0)
    | .complement => return wrap (-n - 1)
  | .binary op left right => do
    let a ← evaluate lookup left
    let b ← evaluate lookup right
    apply op a b
  | .both left right => do
    if (← evaluate lookup left) = 0 then return 0
    return truth ((← evaluate lookup right) != 0)
  | .either left right => do
    if (← evaluate lookup left) ≠ 0 then return 1
    return truth ((← evaluate lookup right) != 0)
  | .choice test yes no => do
    if (← evaluate lookup test) ≠ 0 then evaluate lookup yes else evaluate lookup no
  | .assign name op value => do
    let n ← evaluate lookup value
    let n ← match op with
      | none => pure n
      | some op => do
        let before ← match (← get).lookup name with
          | some n => pure n
          | none => lookup name
        apply op before n
    modify ((name, n) :: ·)
    return n

end ThemedShell.CommandLanguage.Arithmetic
