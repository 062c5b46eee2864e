import ThemedShell.CommandLanguage.Arithmetic

/-!
# The command language: formats

What `echo` and `printf` write. Escapes with a backslash stand for controls or for the byte of an
octal number. A format is used again for as long as there are arguments left.
-/
namespace ThemedShell.CommandLanguage.Format

open Text (Octets)

/-! ## Escapes -/

def isOctal (b : UInt8) : Bool := '0' ≤ asChar b && asChar b ≤ '7'

/-- The byte of up to `most` octal digits, and the rest. -/
def octal (most : Nat) (bytes : Octets) : UInt8 × Octets :=
  let digits := (bytes.take most).takeWhile isOctal
  ((digits.foldl (fun n b => n * 8 + Arithmetic.digitValue b) 0).toUInt8, bytes.drop digits.length)

/-- What the bytes behind a backslash stand for; a backslash that introduces nothing stays. -/
def escape (bytes : Octets) : UInt8 × Octets :=
  match bytes with
  | [] => (ascii '\\', [])
  | b :: rest =>
    match asChar b with
    | '\\' => (b, rest)
    | 'a' => (7, rest)
    | 'b' => (8, rest)
    | 'f' => (12, rest)
    | 'n' => (10, rest)
    | 'r' => (13, rest)
    | 't' => (9, rest)
    | 'v' => (11, rest)
    | _ => if isOctal b then octal 3 bytes else (ascii '\\', bytes)

/-- An argument with its escapes replaced; `true` if one of them ends all output. Octal numbers may
have a zero in front. -/
def unescape : Nat → Octets → Octets × Bool
  | 0, _ => ([], false)
  | _ + 1, [] => ([], false)
  | fuel + 1, b :: rest =>
    if asChar b != '\\' then
      let (text, ends) := unescape fuel rest
      (b :: text, ends)
    else match rest with
      | c :: after =>
        if asChar c == 'c' then ([], true)
        else
          let (b, rest) := if asChar c == '0' then octal 3 after else escape rest
          let (text, ends) := unescape fuel rest
          (b :: text, ends)
      | [] => ([b], false)

/-- What `echo` writes. -/
def echo (arguments : List Octets) : Octets :=
  let (line, arguments) := match arguments with
    | first :: rest => if first == Text.encode "-n" then (false, rest) else (true, arguments)
    | [] => (true, [])
  let joined := [ascii ' '].intercalate arguments
  let (text, ends) := unescape (joined.length + 1) joined
  if line && !ends then text ++ [ascii '\n'] else text

/-! ## Conversions -/

structure Conversion where
  left : Bool := false
  plus : Bool := false
  space : Bool := false
  alternate : Bool := false
  zero : Bool := false
  width : Nat := 0
  precision : Option Nat := none
  kind : Char

/-- What is left of the arguments, what has been written (last piece first), what went wrong, and
whether an argument ended the output. -/
structure State where
  arguments : List Octets
  pieces : List Octets := []
  complaints : List Octets := []
  ended : Bool := false
  /-- The format itself is wrong. -/
  failed : Bool := false

def State.put (s : State) (bytes : Octets) : State := { s with pieces := bytes :: s.pieces }

def State.take (s : State) : Option Octets × State :=
  match s.arguments with
  | [] => (none, s)
  | first :: rest => (some first, { s with arguments := rest })

/-- A text filled up with blanks to the width. -/
def pad (c : Conversion) (bytes : Octets) : Octets :=
  let blanks := List.replicate (c.width - bytes.length) (ascii ' ')
  if c.left then bytes ++ blanks else blanks ++ bytes

/-- Digits with a sign before them, filled up with zeros or blanks. -/
def padNumber (c : Conversion) (sign digits : String) : Octets :=
  let zeros (n : Nat) : Octets := List.replicate n (ascii '0')
  let digits := Text.encode digits
  let digits := match c.precision with
    | some n => zeros (n - digits.length) ++ digits
    | none => digits
  let sign := Text.encode sign
  if c.zero && !c.left && c.precision.isNone then
    sign ++ zeros (c.width - sign.length - digits.length) ++ digits
  else pad c (sign ++ digits)

def digitsOf (base : Nat) (n : Nat) : String := .ofList (Nat.toDigits base n)

def upper (s : String) : String := .ofList (s.toList.map Char.toUpper)

/-- A number with the sign that the conversion asks for. -/
def integer (c : Conversion) (n : Int) : Octets :=
  let unsigned : Nat := (n % (Arithmetic.modulus : Int)).toNat
  match c.kind with
  | 'd' | 'i' =>
    let sign := if n < 0 then "-" else if c.plus then "+" else if c.space then " " else ""
    padNumber c sign (digitsOf 10 n.natAbs)
  | 'u' => padNumber c "" (digitsOf 10 unsigned)
  | 'o' => padNumber c "" ((if c.alternate then "0" else "") ++ digitsOf 8 unsigned)
  | 'x' => padNumber c (if c.alternate && unsigned != 0 then "0x" else "") (digitsOf 16 unsigned)
  | _ =>
    padNumber c (if c.alternate && unsigned != 0 then "0X" else "") (upper (digitsOf 16 unsigned))

/-- The number at the beginning of an argument, and a complaint if there is more or none. -/
def integerOf (argument : Octets) : Int × Option String :=
  match argument with
  | a :: b :: _ =>
    if asChar a == '\'' || asChar a == '"' then (b.toNat, none) else plain argument
  | _ => plain argument
where
  /-- A number without the notation for single bytes. -/
  plain (argument : Octets) : Int × Option String :=
    if argument.isEmpty then (0, none)
    else
      let body := argument.dropWhile fun b => " \t\n".toList.contains (asChar b)
      let (negative, digits) := match body with
        | b :: rest =>
          if asChar b == '-' then (true, rest) else if asChar b == '+' then (false, rest)
          else (false, body)
        | [] => (false, [])
      match digits with
      | b :: _ =>
        if isDigit b then
          let (n, rest) := Arithmetic.readNumber digits
          let n : Int := min n Arithmetic.largest
          (if negative then -n else n,
           if rest.isEmpty then none else some "not completely converted")
        else (0, some "expected numeric value")
      | [] => (0, some "expected numeric value")

/-- A decimal fraction rounded to so many places, half to even; `scale` is the number of places
it is given with. -/
def fixed (places : Nat) (value scale : Nat) : String :=
  let scaled :=
    if scale ≤ places then value * Nat.pow 10 (places - scale)
    else
      let unit := Nat.pow 10 (scale - places)
      let quotient := value / unit
      let twice := 2 * (value % unit)
      if twice > unit || (twice == unit && quotient % 2 == 1) then quotient + 1 else quotient
  let digits := toString scaled
  let digits := String.ofList (List.replicate (places + 1 - digits.length) '0') ++ digits
  let whole := digits.toList.take (digits.length - places)
  let part := digits.toList.drop (digits.length - places)
  if places = 0 then .ofList whole else .ofList (whole ++ '.' :: part)

/-- The decimal fraction that an argument is: its sign, its digits, and how many of them follow the
point. -/
def fractionOf (argument : Octets) : Option (Bool × Nat × Nat) :=
  let (negative, digits) := match argument with
    | b :: rest =>
      if asChar b == '-' then (true, rest) else if asChar b == '+' then (false, rest)
      else (false, argument)
    | [] => (false, [])
  let whole := digits.takeWhile isDigit
  let rest := digits.drop whole.length
  let part := match rest with
    | b :: after => if asChar b == '.' then some after else none
    | [] => some []
  match part with
  | some part =>
    if part.all isDigit && !(whole.isEmpty && part.isEmpty) then
      some (negative, (Arithmetic.readDigits 10 (whole ++ part)).1, part.length)
    else none
  | none => none

/-- Carries out a conversion on the next argument. -/
def convert (c : Conversion) (s : State) : State :=
  let (argument, s) := s.take
  let bytes := argument.getD []
  let cut (bytes : Octets) : Octets := match c.precision with
    | some n => bytes.take n
    | none => bytes
  match c.kind with
  | 's' => s.put (pad c (cut bytes))
  | 'c' => s.put (pad c (bytes.take 1))
  | 'b' =>
    let (text, ends) := unescape (bytes.length + 1) bytes
    { s.put (pad c (cut text)) with ended := ends }
  | 'f' | 'F' =>
    match if bytes.isEmpty then some (false, 0, 0) else fractionOf bytes with
    | some (negative, value, scale) =>
      let sign := if negative then "-" else if c.plus then "+" else if c.space then " " else ""
      s.put (padNumber { c with precision := none } sign
        (fixed (c.precision.getD 6) value scale))
    | none =>
      { s.put (padNumber { c with precision := none } "" (fixed (c.precision.getD 6) 0 0)) with
        complaints := s.complaints ++ [bytes ++ Text.encode ": expected numeric value"] }
  | _ =>
    let (n, complaint) := integerOf bytes
    let s := s.put (integer c n)
    match complaint with
    | some message =>
      { s with complaints := s.complaints ++ [bytes ++ Text.encode (": " ++ message)] }
    | none => s

/-! ## Formats -/

def setOption (c : Conversion) (flag : Char) : Conversion :=
  match flag with
  | '-' => { c with left := true }
  | '+' => { c with plus := true }
  | ' ' => { c with space := true }
  | '#' => { c with alternate := true }
  | _ => { c with zero := true }

/-- A number in a conversion: digits, or a star for the next argument. -/
def number (bytes : Octets) (s : State) : Int × Octets × State :=
  match bytes with
  | b :: rest =>
    if asChar b == '*' then
      let (argument, s) := s.take
      ((integerOf (argument.getD [])).1, rest, s)
    else
      let (n, rest) := Arithmetic.readDigits 10 bytes
      (n, rest, s)
  | [] => (0, [], s)

/-- Reads and carries out a conversion; what follows it is left. -/
def conversion (bytes : Octets) (s : State) : Octets × State :=
  let flags := bytes.takeWhile fun b => "-+ #0".toList.contains (asChar b)
  let c := flags.foldl (fun c b => setOption c (asChar b)) { kind := 'd' }
  let (width, bytes, s) := number (bytes.drop flags.length) s
  let c := { c with width := width.natAbs, left := c.left || width < 0 }
  let (c, bytes, s) := match bytes with
    | b :: rest =>
      if asChar b == '.' then
        let (precision, rest, s) := number rest s
        ({ c with precision := if precision < 0 then none else some precision.toNat }, rest, s)
      else (c, bytes, s)
    | [] => (c, bytes, s)
  match bytes with
  | b :: rest =>
    if "sdiouxXcbfF".toList.contains (asChar b) then
      (rest, convert { c with kind := asChar b } s)
    else ([], { s with
      complaints := s.complaints ++ [Text.encode "%" ++ flags ++ [b] ++ Text.encode ": invalid directive"]
      ended := true, failed := true })
  | [] => ([], { s with
      complaints := s.complaints ++ [Text.encode "%: invalid directive"], ended := true,
      failed := true })

/-- Writes a format once; `true` if it had a conversion. -/
def once : Nat → Octets → Bool → State → Bool × State
  | 0, _, converted, s => (converted, s)
  | _ + 1, [], converted, s => (converted, s)
  | fuel + 1, b :: rest, converted, s =>
    if s.ended then (converted, s)
    else match asChar b, rest with
      | '\\', _ =>
        let (b, rest) := escape rest
        once fuel rest converted (s.put [b])
      | '%', c :: after =>
        if asChar c == '%' then once fuel after converted (s.put [c])
        else
          let (rest, s) := conversion rest s
          once fuel rest true s
      | '%', [] =>
        let (_, s) := conversion [] s
        (converted, s)
      | _, _ => once fuel rest converted (s.put [b])

/-- Writes a format for as long as there are arguments. -/
def repeatedly (format : Octets) : Nat → State → State
  | 0, s => s
  | fuel + 1, s =>
    let (converted, s) := once (format.length + 1) format false s
    if s.ended || !converted || s.arguments.isEmpty then s else repeatedly format fuel s

/-- What `printf` writes, its complaints and its status. -/
def printf (format : Octets) (arguments : List Octets) : Octets × List Octets × Nat :=
  let s := repeatedly format (arguments.length + 1) { arguments }
  (s.pieces.reverse.flatten, s.complaints,
   if s.failed then 2 else if s.complaints.isEmpty then 0 else 1)

end ThemedShell.CommandLanguage.Format
