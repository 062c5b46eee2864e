import ThemedShell.Text.Grapheme.Table

/-!
# Grapheme clusters

A grapheme cluster is what a reader takes for one character: a letter with its marks, a Hangul
syllable, a flag, a sequence of joined pictographs. `clusters` cuts a text into its extended
grapheme clusters.
-/
namespace ThemedShell.Text

/-- The classes of Grapheme_Cluster_Break. -/
inductive ClusterClass where
  | carriageReturn | lineFeed | control | extend | joiner | regional | prepended | spacingMark
  | leadingJamo | vowelJamo | trailingJamo | openSyllable | closedSyllable | other
deriving DecidableEq, Repr

/-- Precomposed Hangul syllables, in order; every 28th has no trailing consonant. -/
def hangulSyllable? (n : Nat) : Option ClusterClass :=
  if 0xAC00 ≤ n ∧ n ≤ 0xD7A3 then
    some (if (n - 0xAC00) % 28 = 0 then .openSyllable else .closedSyllable)
  else none

def clusterClass (c : Char) : ClusterClass :=
  if c = '\r' then .carriageReturn
  else if c = '\n' then .lineFeed
  else if c.toNat < 0x20 then .control
  else if c.toNat < 0x7F then .other
  else if c = '\u200d' then .joiner
  else if controlRanges.has c then .control
  else if extendRanges.has c then .extend
  else if regionalRanges.has c then .regional
  else if prependRanges.has c then .prepended
  else if spacingMarkRanges.has c then .spacingMark
  else if leadingJamoRanges.has c then .leadingJamo
  else if vowelJamoRanges.has c then .vowelJamo
  else if trailingJamoRanges.has c then .trailingJamo
  else (hangulSyllable? c.toNat).getD .other

/-! ## Where a cluster ends -/

/-- A pictograph and the marks after it: none, seen, or seen with a joiner last. -/
inductive Pictograph where
  | absent | seen | joined
deriving DecidableEq, Repr

/-- An Indic consonant and the marks after it: none, seen, or seen with a linker among them. -/
inductive Conjunct where
  | absent | seen | linked
deriving DecidableEq, Repr

/-- What of the text before a place decides whether a cluster ends there. -/
structure ClusterState where
  last : ClusterClass
  pictograph : Pictograph
  conjunct : Conjunct
  /-- An odd number of regional indicators stands before the place. -/
  halfFlag : Bool
deriving DecidableEq, Repr

def Pictograph.next (p : Pictograph) (c : Char) (k : ClusterClass) : Pictograph :=
  if pictographRanges.has c then .seen
  else match p, k with
    | .seen, .extend => .seen
    | .seen, .joiner => .joined
    | _, _ => .absent

def Conjunct.next (j : Conjunct) (c : Char) (k : ClusterClass) : Conjunct :=
  if conjunctConsonantRanges.has c then .seen
  else if j = .absent then .absent
  else if conjunctLinkerRanges.has c then .linked
  else if (k = .extend ∨ k = .joiner) ∧ c ≠ '\u200c' then j
  else .absent

/-- The state after one more character. -/
def ClusterState.next (s : Option ClusterState) (c : Char) : ClusterState :=
  let k := clusterClass c
  { last := k
    pictograph := (s.elim .absent ClusterState.pictograph).next c k
    conjunct := (s.elim .absent ClusterState.conjunct).next c k
    halfFlag := k = .regional && !s.any ClusterState.halfFlag }

def isBreak (k : ClusterClass) : Bool :=
  k = .control || k = .carriageReturn || k = .lineFeed

/-- Two parts of one Hangul syllable. -/
def joinsSyllable : ClusterClass → ClusterClass → Bool
  | .leadingJamo, .leadingJamo | .leadingJamo, .vowelJamo
  | .leadingJamo, .openSyllable | .leadingJamo, .closedSyllable => true
  | .openSyllable, .vowelJamo | .openSyllable, .trailingJamo
  | .vowelJamo, .vowelJamo | .vowelJamo, .trailingJamo => true
  | .closedSyllable, .trailingJamo | .trailingJamo, .trailingJamo => true
  | _, _ => false

/-- The character `c` belongs to the cluster of the one before it. -/
def ClusterState.joins (s : ClusterState) (c : Char) : Bool :=
  let k := clusterClass c
  if s.last = .carriageReturn ∧ k = .lineFeed then true
  else if isBreak s.last || isBreak k then false
  else joinsSyllable s.last k
    || k = .extend || k = .joiner || k = .spacingMark
    || s.last = .prepended
    || (s.conjunct = .linked && conjunctConsonantRanges.has c)
    || (s.pictograph = .joined && pictographRanges.has c)
    || (s.halfFlag && k = .regional)

/-! ## Clusters of a text -/

/-- A text in the course of being cut: the state, the cluster that is open, read backwards, and
the finished ones, newest first. -/
structure Cutting where
  state : Option ClusterState := none
  current : List Char := []
  done : List (List Char) := []

def Cutting.close (t : Cutting) : List (List Char) :=
  if t.current.isEmpty then t.done else t.current.reverse :: t.done

def Cutting.step (t : Cutting) (c : Char) : Cutting :=
  let state := some (.next t.state c)
  if t.state.any (·.joins c) then ⟨state, c :: t.current, t.done⟩
  else ⟨state, [c], t.close⟩

/-- The extended grapheme clusters of a text, in order. -/
def clusters (cs : List Char) : List (List Char) := (cs.foldl Cutting.step {}).close.reverse

end ThemedShell.Text
