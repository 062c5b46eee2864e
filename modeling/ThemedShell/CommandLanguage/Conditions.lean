import ThemedShell.CommandLanguage.Process
import ThemedShell.CommandLanguage.Arithmetic

/-!
# The command language: conditions

What `test` makes of its arguments. They are read from left to right: alternatives of conjunctions
of conditions, each perhaps negated, in parentheses or made with an operator. A word that could be
an operator counts as an operand where the words around it ask for one.
-/
namespace ThemedShell.CommandLanguage.Conditions

open Text (Octets)

/-- How an operator takes its operands. -/
inductive Arity where
  | unary | binary | connective
deriving DecidableEq

def unaryOperators : List String :=
  ["-r", "-w", "-x", "-e", "-f", "-d", "-c", "-b", "-p", "-u", "-g", "-k", "-s", "-t", "-z", "-n",
   "-h", "-O", "-G", "-L", "-S"]

def binaryOperators : List String :=
  ["=", "!=", "<", ">", "-eq", "-ne", "-ge", "-gt", "-le", "-lt", "-nt", "-ot", "-ef"]

def connectives : List String := ["!", "-a", "-o", "(", ")"]

/-- The operator that a word is. -/
def operator? (word : Octets) : Option (String × Arity) :=
  let text (ops : List String) : Option String := ops.find? fun op => Text.encode op == word
  ((text unaryOperators).map (·, .unary)).or
    (((text binaryOperators).map (·, .binary)).or ((text connectives).map (·, .connective)))

/-- Conditions are read from a row of words, of which those before `place` have been used. -/
structure State where
  words : Array Octets
  place : Nat := 0

/-- A mistake in a condition: the word that is wrong, and a message. -/
abbrev Reader := StateT State (Except (Option Octets × String))

def wordAt (i : Nat) : Reader (Option Octets) := return (← get).words[i]?

def isBinary (word : Option Octets) : Bool := (word.bind operator?).any fun (_, a) => a = .binary

/-- The word at a place as an operator: none if it is an operand there, or if there is none. -/
def operatorAt (i : Nat) : Reader (Option (String × Arity)) := do
  match ← wordAt i with
  | none => return none
  | some word =>
    match operator? word with
    | none => return none
    | some (op, arity) =>
      let next ← wordAt (i + 1)
      let operand := match next with
        | none => true
        | some _ => isBinary next
      let after ← wordAt (i + 2)
      if arity = .unary && operand && (next.isNone || after.isSome) then return none
      if op == "(" && next.isNone then return none
      return some (op, arity)

/-- What a process knows about files. -/
structure Facts where
  node : Octets → Bool → Option FileTree.Node
  same : Octets → Octets → Bool

def fileHolds (facts : Facts) (op : String) (name : Octets) : Bool :=
  match facts.node name (op != "-h" && op != "-L") with
  | none => false
  | some node =>
    match op, node with
    | "-f", .file _ _ => true
    | "-f", _ => false
    | "-d", node => node.isDirectory
    | "-h", node | "-L", node => node.isLink
    | "-s", .file content _ => content.size > 0
    | "-s", node => node.isDirectory
    | "-x", .file _ executable => executable
    | "-x", node => node.isDirectory
    | "-c", .nullDevice => true
    | "-c", _ | "-b", _ | "-p", _ | "-S", _ | "-u", _ | "-g", _ | "-k", _ => false
    | _, _ => true

def numberOf (word : Octets) : Reader Int :=
  match Arithmetic.valueOf word with
  | .ok n => if word.isEmpty then throw (none, "Illegal number: ") else return n
  | .error _ => throw (none, "Illegal number: " ++ Text.decodeLossy word)

def binaryHolds (facts : Facts) (op : String) (a b : Octets) : Reader Bool := do
  match op with
  | "=" => return a == b
  | "!=" => return a != b
  | "<" => return decide (a < b)
  | ">" => return decide (b < a)
  | "-nt" | "-ot" => return false
  | "-ef" => return facts.same a b
  | _ =>
    let m ← numberOf a
    let n ← numberOf b
    return match op with
      | "-eq" => m == n
      | "-ne" => m != n
      | "-ge" => decide (m ≥ n)
      | "-gt" => decide (m > n)
      | "-le" => decide (m ≤ n)
      | _ => decide (m < n)

def advance (n : Nat) : Reader Nat := do
  let place := (← get).place + n
  modify ({ · with place })
  return place

mutual

def alternatives (facts : Facts) : Nat → Reader Bool
  | 0 => return false
  | fuel + 1 => do
    let first ← conjunction facts fuel
    if (← operatorAt ((← get).place + 1)).map Prod.fst == some "-o" then
      let _ ← advance 2
      return (← alternatives facts fuel) || first
    else return first

def conjunction (facts : Facts) : Nat → Reader Bool
  | 0 => return false
  | fuel + 1 => do
    let first ← negation facts fuel
    if (← operatorAt ((← get).place + 1)).map Prod.fst == some "-a" then
      let _ ← advance 2
      return (← conjunction facts fuel) && first
    else return first

def negation (facts : Facts) : Nat → Reader Bool
  | 0 => return false
  | fuel + 1 => do
    if (← operatorAt (← get).place).map Prod.fst == some "!" then
      if (← wordAt ((← get).place + 1)).isSome then
        let _ ← advance 1
        return !(← negation facts fuel)
      else return true
    else condition facts fuel

/-- A condition in parentheses, with an operator, or a word that is true unless it is empty. -/
def condition (facts : Facts) : Nat → Reader Bool
  | 0 => return false
  | fuel + 1 => do
    let place := (← get).place
    match ← wordAt place with
    | none => return false
    | some word =>
      match ← operatorAt place with
      | some ("(", _) =>
        let _ ← advance 1
        if (← operatorAt (place + 1)).map Prod.fst == some ")" then return false
        let inner ← alternatives facts fuel
        let close ← advance 1
        if (← operatorAt close).map Prod.fst != some ")" then
          throw (none, "closing paren expected")
        return inner
      | some (op, .unary) =>
        match ← wordAt (place + 1) with
        | none => throw (some (Text.encode op), "argument expected")
        | some operand =>
          let _ ← advance 1
          match op with
          | "-z" => return operand.isEmpty
          | "-n" => return !operand.isEmpty
          | "-t" =>
            let _ ← numberOf operand
            return false
          | _ => return fileHolds facts op operand
      | _ =>
        if isBinary (← wordAt (place + 1)) then binary facts place word
        else return !word.isEmpty

/-- A condition with an operator between two operands. -/
def binary (facts : Facts) (place : Nat) (first : Octets) : Reader Bool := do
  let op := ((← wordAt (place + 1)).bind operator?).map Prod.fst |>.getD "="
  match ← wordAt (place + 2) with
  | none => throw (some (Text.encode op), "argument expected")
  | some second =>
    let _ ← advance 2
    binaryHolds facts op first second

end

/-- The condition that all the words make together. -/
def whole (facts : Facts) (words : List Octets) : Except (Option Octets × String) Bool := do
  let fuel := 10 * (words.length + 2)
  let (value, s) ← match words with
    | [a, op, b] =>
      if isBinary (some op) then
        (binary facts 0 a).run { words := #[a, op, b] }
      else (alternatives facts fuel).run { words := words.toArray }
    | _ => (alternatives facts fuel).run { words := words.toArray }
  match s.words[s.place]?, s.words[s.place + 1]? with
  | some last, some _ => throw (some last, "unexpected operator")
  | _, _ => return value

/-- The condition of so few words that parentheses and a negation in front come first. -/
def evaluate (facts : Facts) : Nat → List Octets → Except (Option Octets × String) Bool
  | 0, _ => .ok false
  | _ + 1, [] => .ok false
  | fuel + 1, words =>
    let isShort := words.length = 4
      || (words.length = 3 && !isBinary words[1]?)
    let firstIs (s : String) : Bool := words.head? == some (Text.encode s)
    if isShort && firstIs "(" && words.getLast? == some (Text.encode ")") then
      whole facts (words.drop 1).dropLast
    else if isShort && firstIs "!" then (evaluate facts fuel (words.drop 1)).map not
    else whole facts words

end ThemedShell.CommandLanguage.Conditions
