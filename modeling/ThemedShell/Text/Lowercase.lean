import ThemedShell.Text.Lowercase.Table

/-!
# Lower case

Full lower-casing: each letter becomes its lower-case form, a capital I with a dot becomes an `i`
and a combining dot, and a capital sigma at the end of a word becomes the final form of sigma.
-/
namespace ThemedShell.Text

/-- The lower-case form of a letter that has exactly one; any other character stays. -/
def lowerLetter (c : Char) : Char :=
  match caseRuns.find? (·.has c.toNat) with
  | some run => Char.ofNat (run.lower c.toNat)
  | none => c

/-- Capital I with a dot above. -/
def dottedCapitalI : Char := '\u0130'

def capitalSigma : Char := '\u03a3'

def smallSigma : Char := '\u03c3'

def finalSigma : Char := '\u03c2'

/-- Beyond characters without a case of their own, the next one is a cased letter. -/
def meetsCased (cs : List Char) : Bool :=
  match cs.dropWhile caseIgnorableRanges.has with
  | [] => false
  | c :: _ => casedRanges.has c

/-- A sigma ends a word if a cased letter comes before it and none after it. `before` is read
backwards. -/
def lowerSigma (before after : List Char) : Char :=
  if meetsCased before && !meetsCased after then finalSigma else smallSigma

/-- The lower-case form of `c`, which stands after `before` (read backwards) and before `after`. -/
def lowerAt (before : List Char) (c : Char) (after : List Char) : List Char :=
  if c = capitalSigma then [lowerSigma before after]
  else if c = dottedCapitalI then ['i', '\u0307']
  else [lowerLetter c]

/-- Lower-casing of what follows `before` (read backwards). -/
def lowerFrom (before : List Char) : List Char → List Char
  | [] => []
  | c :: rest => lowerAt before c rest ++ lowerFrom (c :: before) rest

def lowercase (s : String) : String := .ofList (lowerFrom [] s.toList)

@[simp] theorem toList_lowercase (s : String) : (lowercase s).toList = lowerFrom [] s.toList := by
  simp [lowercase]

end ThemedShell.Text
