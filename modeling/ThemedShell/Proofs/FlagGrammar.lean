import ThemedShell.Flags

/-!
# The grammar of arguments

Arguments are one occurrence of a flag after the other: a switch takes one argument, its spelling,
and a flag with a value takes two, of which the second may be any text, a spelling included.
`Flags.Reads` says which occurrences a list of arguments holds, and why reading stops if it does not
come to the end. There is one such reading (`Reads.unique`), `Flags.parse` follows it, and each flag
is left with the value of its last occurrence (`parsing_follows_grammar`).
-/
namespace ThemedShell

namespace Flag

/-! ## Spellings -/

theorem spelledBy_iff {flag : Flag} {argument : String} :
    flag.spelledBy argument = true ↔
      argument = flag.long ∨ flag.short ≠ "" ∧ argument = flag.short := by
  simp [spelledBy]

/-- No argument is a spelling of two flags. -/
theorem spelledBy_injective {flag other : Flag} {argument : String}
    (h : flag.spelledBy argument = true) (h' : other.spelledBy argument = true) : flag = other := by
  have distinct : ∀ flag ∈ all, ∀ argument ∈ [flag.long, flag.short], ∀ other ∈ all,
      flag.spelledBy argument = true → other.spelledBy argument = true → flag = other := by decide
  have written : argument ∈ [flag.long, flag.short] := by
    rcases spelledBy_iff.1 h with rfl | ⟨-, rfl⟩ <;> simp
  exact distinct flag (mem_all flag) argument written other (mem_all other) h h'

theorem ofSpelling?_eq_some {flag : Flag} {argument : String} :
    ofSpelling? argument = some flag ↔ flag.spelledBy argument = true := by
  have spelled : ∀ other : Flag, ofSpelling? argument = some other →
      other.spelledBy argument = true := fun other found =>
    List.find?_some (p := fun flag : Flag => flag.spelledBy argument) found
  constructor
  · exact spelled flag
  · intro h
    cases found : ofSpelling? argument with
    | none => exact absurd h (List.find?_eq_none.1 found flag (mem_all flag))
    | some other => rw [spelledBy_injective h (spelled other found)]

theorem ofSpelling?_eq_none {argument : String} :
    ofSpelling? argument = none ↔ ∀ flag : Flag, flag.spelledBy argument = false := by
  simp [ofSpelling?, mem_all]

/-- An empty argument spells no flag: a short spelling that is empty does not count. -/
theorem spelledBy_empty (flag : Flag) : flag.spelledBy "" = false := by
  rw [Bool.eq_false_iff]
  intro h
  rcases spelledBy_iff.1 h with long | ⟨written, short⟩
  · cases flag <;> exact absurd long (by decide)
  · exact written short.symm

/-! ## Occurrences -/

/-- A flag as it stands among arguments: in one of its spellings, and followed by an argument if it
takes a value. -/
structure Occurrence where
  flag : Flag
  spelling : String
  follower? : Option String
  spelled : flag.spelledBy spelling = true
  followed : follower?.isSome = flag.takesValue

namespace Occurrence

def arguments (o : Occurrence) : List String := o.spelling :: o.follower?.toList

/-- What the flag is set to. -/
def value (o : Occurrence) : String := o.follower?.getD Flags.switchedOn

/-- The value that the last occurrence of a flag sets it to. -/
def lastValue? (flag : Flag) (occurrences : List Occurrence) : Option String :=
  ((occurrences.filter fun o => o.flag = flag).getLast?).map value

theorem isSome_lastValue? {flag : Flag} {occurrences : List Occurrence} :
    (lastValue? flag occurrences).isSome = true ↔ ∃ o ∈ occurrences, o.flag = flag := by
  rw [lastValue?, Option.isSome_map, List.getLast?_isSome]
  simp [List.filter_eq_nil_iff]

theorem lastValue?_cons (flag : Flag) (o : Occurrence) (occurrences : List Occurrence) :
    lastValue? flag (o :: occurrences) =
      (lastValue? flag occurrences).or (if o.flag = flag then some o.value else none) := by
  by_cases same : o.flag = flag
  · simp only [lastValue?, List.filter_cons, same, decide_true, if_true, List.getLast?_cons]
    cases (occurrences.filter fun o => o.flag = flag).getLast? <;> rfl
  · simp [lastValue?, same]

/-- The first occurrence among arguments is settled by them, and so is what comes behind it. -/
theorem arguments_append_inj {o other : Occurrence} {rest rest' : List String}
    (h : o.arguments ++ rest = other.arguments ++ rest') : o = other ∧ rest = rest' := by
  obtain ⟨flag, spelling, follower?, spelled, followed⟩ := o
  obtain ⟨flag', spelling', follower?', spelled', followed'⟩ := other
  simp only [arguments, List.cons_append, List.cons.injEq] at h
  obtain ⟨rfl, behind⟩ := h
  obtain rfl := spelledBy_injective spelled spelled'
  -- Both are followed by a value, or neither is.
  cases follower? with
  | none =>
    cases follower?' with
    | none => exact ⟨rfl, behind⟩
    | some value => simp [← followed] at followed'
  | some value =>
    cases follower?' with
    | none => simp [← followed] at followed'
    | some value' =>
      obtain ⟨rfl, rest⟩ := List.cons.inj behind
      exact ⟨rfl, rest⟩

end Occurrence

end Flag

namespace Flags

open ThemedShell.Flag (Occurrence)

/-! ## Reading -/

/-- Reading stops at these arguments, at the end or by an error: the first of them is no spelling, or
it is the last and lacks its value. -/
inductive Stops : List String → Option FlagError → Prop where
  | atEnd : Stops [] none
  | unknown {argument : String} (rest : List String)
    (unspelled : ∀ flag : Flag, flag.spelledBy argument = false) :
    Stops (argument :: rest) (some (.unknown argument))
  | missingValue {argument : String} {flag : Flag} (spelled : flag.spelledBy argument = true)
    (takesValue : flag.takesValue = true) : Stops [argument] (some (.missingValue argument))

/-- The arguments begin with the occurrences, and behind these reading stops. -/
def Reads (arguments : List String) (occurrences : List Occurrence) (error : Option FlagError) :
    Prop :=
  ∃ rest, arguments = occurrences.flatMap Occurrence.arguments ++ rest ∧ Stops rest error

theorem reads_none {arguments : List String} {occurrences : List Occurrence} :
    Reads arguments occurrences none ↔ arguments = occurrences.flatMap Occurrence.arguments := by
  constructor
  · rintro ⟨rest, begins, stops⟩
    cases stops
    rw [begins, List.append_nil]
  · intro h
    exact ⟨[], by rw [h, List.append_nil], .atEnd⟩

/-- Where reading stops there is no occurrence. -/
theorem Stops.ne_occurrence {rest : List String} {error : Option FlagError} (h : Stops rest error)
    (o : Occurrence) (more : List String) : rest ≠ o.arguments ++ more := by
  intro begins
  have spelled := o.spelled
  have followed := o.followed
  cases h with
  | atEnd => cases begins
  | unknown rest unspelled =>
    obtain ⟨rfl, -⟩ := List.cons.inj begins
    simp [unspelled] at spelled
  | missingValue spelled' takesValue =>
    obtain ⟨rfl, behind⟩ := List.cons.inj begins
    rw [Flag.spelledBy_injective spelled spelled', takesValue] at followed
    obtain ⟨value, hvalue⟩ := Option.isSome_iff_exists.1 followed
    simp [hvalue] at behind

theorem Stops.unique {rest : List String} {error error' : Option FlagError} (h : Stops rest error)
    (h' : Stops rest error') : error = error' := by
  cases h with
  | atEnd => cases h'; rfl
  | unknown rest unspelled =>
    cases h' with
    | unknown => rfl
    | missingValue spelled => simp [unspelled] at spelled
  | missingValue spelled =>
    cases h' with
    | unknown rest unspelled => simp [unspelled] at spelled
    | missingValue => rfl

/-- **Arguments are read in one way.** -/
theorem Reads.unique {arguments : List String} {occurrences occurrences' : List Occurrence}
    {error error' : Option FlagError} (h : Reads arguments occurrences error)
    (h' : Reads arguments occurrences' error') : occurrences = occurrences' ∧ error = error' := by
  induction occurrences generalizing arguments occurrences' with
  | nil =>
    obtain ⟨rest, begins, stops⟩ := h
    obtain ⟨rest', begins', stops'⟩ := h'
    have same := begins.symm.trans begins'
    cases occurrences' with
    | nil =>
      obtain rfl : rest = rest' := same
      exact ⟨rfl, stops.unique stops'⟩
    | cons o others =>
      rw [List.flatMap_cons, List.append_assoc] at same
      exact absurd same (stops.ne_occurrence o _)
  | cons o others ih =>
    obtain ⟨rest, begins, stops⟩ := h
    obtain ⟨rest', begins', stops'⟩ := h'
    have same := begins.symm.trans begins'
    rw [List.flatMap_cons, List.append_assoc] at same
    cases occurrences' with
    | nil => exact absurd same.symm (stops'.ne_occurrence o _)
    | cons o' others' =>
      rw [List.flatMap_cons, List.append_assoc] at same
      obtain ⟨rfl, behind⟩ := Occurrence.arguments_append_inj same
      obtain ⟨rfl, rfl⟩ := ih ⟨rest, rfl, stops⟩ ⟨rest', behind, stops'⟩
      exact ⟨rfl, rfl⟩

/-! ## Parsing -/

/-- The values after the occurrences, each of which replaces what its flag was set to before. -/
def setAll (flags : Flags) (occurrences : List Occurrence) : Flags :=
  occurrences.foldl (fun flags o => flags.set o.flag o.value) flags

theorem value?_setAll (flags : Flags) (occurrences : List Occurrence) (flag : Flag) :
    (flags.setAll occurrences).value? flag =
      (Occurrence.lastValue? flag occurrences).or (flags.value? flag) := by
  induction occurrences generalizing flags with
  | nil => rfl
  | cons o occurrences ih =>
    have step : flags.setAll (o :: occurrences) =
        (flags.set o.flag o.value).setAll occurrences := rfl
    rw [step, ih, Occurrence.lastValue?_cons, Option.or_assoc]
    congr 1
    by_cases same : o.flag = flag
    · simp [← same]
    · simp [value?_set_of_ne flags (Ne.symm same), same]

/-- An occurrence is parsed as it is read. -/
theorem parse_occurrence (flags : Flags) (o : Occurrence) (rest : List String) :
    flags.parse (o.arguments ++ rest) = (flags.set o.flag o.value).parse rest := by
  obtain ⟨flag, spelling, follower?, spelled, followed⟩ := o
  have found := Flag.ofSpelling?_eq_some.2 spelled
  cases follower? with
  | none =>
    have plain : flag.takesValue = false := followed.symm
    simp [Occurrence.arguments, Occurrence.value, parse, found, plain]
  | some value =>
    have takesValue : flag.takesValue = true := followed.symm
    simp [Occurrence.arguments, Occurrence.value, parse, found, takesValue]

theorem parse_occurrences (flags : Flags) (occurrences : List Occurrence) (rest : List String) :
    flags.parse (occurrences.flatMap Occurrence.arguments ++ rest) =
      (flags.setAll occurrences).parse rest := by
  induction occurrences generalizing flags with
  | nil => rfl
  | cons o occurrences ih =>
    rw [List.flatMap_cons, List.append_assoc, parse_occurrence, ih]
    rfl

theorem Stops.parse {rest : List String} {error : Option FlagError} (h : Stops rest error)
    (flags : Flags) : flags.parse rest = (flags, error) := by
  cases h with
  | atEnd => rfl
  | unknown rest unspelled => simp [Flags.parse, Flag.ofSpelling?_eq_none.2 unspelled]
  | missingValue spelled takesValue =>
    simp [Flags.parse, Flag.ofSpelling?_eq_some.2 spelled, takesValue]

/-- **Parsing follows reading.** -/
theorem Reads.parse {arguments : List String} {occurrences : List Occurrence}
    {error : Option FlagError} (h : Reads arguments occurrences error) (flags : Flags) :
    flags.parse arguments = (flags.setAll occurrences, error) := by
  obtain ⟨rest, rfl, stops⟩ := h
  rw [parse_occurrences, stops.parse]

theorem Reads.cons {arguments : List String} {occurrences : List Occurrence}
    {error : Option FlagError} (o : Occurrence) (h : Reads arguments occurrences error) :
    Reads (o.arguments ++ arguments) (o :: occurrences) error := by
  obtain ⟨rest, rfl, stops⟩ := h
  exact ⟨rest, by rw [List.flatMap_cons, List.append_assoc], stops⟩

/-- Any arguments can be read. -/
theorem exists_reads (flags : Flags) (arguments : List String) :
    ∃ occurrences, Reads arguments occurrences (flags.parse arguments).2 := by
  fun_induction parse flags arguments with
  | case1 flags => exact ⟨[], [], rfl, .atEnd⟩
  | case2 flags argument rest unspelled =>
    exact ⟨[], _, rfl, .unknown rest (Flag.ofSpelling?_eq_none.1 unspelled)⟩
  | case3 flags argument flag found takesValue =>
    exact ⟨[], _, rfl, .missingValue (Flag.ofSpelling?_eq_some.1 found) takesValue⟩
  | case4 flags argument flag found takesValue value rest ih =>
    obtain ⟨occurrences, reads⟩ := ih
    exact ⟨_, reads.cons
      ⟨flag, argument, some value, Flag.ofSpelling?_eq_some.1 found, takesValue.symm⟩⟩
  | case5 flags argument rest flag found plain ih =>
    obtain ⟨occurrences, reads⟩ := ih
    exact ⟨_, reads.cons
      ⟨flag, argument, none, Flag.ofSpelling?_eq_some.1 found, (Bool.of_not_eq_true plain).symm⟩⟩

/-- **Parsing follows the grammar.** It succeeds on the arguments that are one occurrence of a flag
after the other. All arguments have exactly one reading, and parsing ends as that does: at the end, or
by the error at the first place that is no occurrence. Each flag is then set to what its last
occurrence before that place says, or else to what it was. So, if there is no error, more arguments
may be parsed at once or later; and what is set stays set. Nothing is no spelling of any flag. -/
theorem parsing_follows_grammar (flags : Flags) (arguments : List String) :
    let parsed := flags.parse arguments
    (parsed.2 = none ↔
      ∃ occurrences : List Occurrence, arguments = occurrences.flatMap Occurrence.arguments) ∧
    (∃ occurrences, Reads arguments occurrences parsed.2 ∧
      (∀ others error, Reads arguments others error →
        others = occurrences ∧ error = parsed.2) ∧
      ∀ flag, parsed.1.value? flag =
        (Occurrence.lastValue? flag occurrences).or (flags.value? flag)) ∧
    (∀ more, parsed.2 = none → flags.parse (arguments ++ more) = parsed.1.parse more) ∧
    (∀ flag, flags.isSet flag = true → parsed.1.isSet flag = true) ∧
    ∀ flag : Flag, flag.spelledBy "" = false := by
  intro parsed
  obtain ⟨occurrences, reads⟩ := exists_reads flags arguments
  have hparsed : parsed = (flags.setAll occurrences, parsed.2) := reads.parse flags
  have values : ∀ flag, parsed.1.value? flag =
      (Occurrence.lastValue? flag occurrences).or (flags.value? flag) := by
    intro flag
    rw [hparsed, value?_setAll]
  refine ⟨⟨fun success => ⟨occurrences, ?_⟩, ?_⟩, ⟨occurrences, reads, ?_, values⟩, ?_, ?_,
    Flag.spelledBy_empty⟩
  · exact reads_none.1 (success ▸ reads)
  · rintro ⟨others, whole⟩
    exact (reads.unique (reads_none.2 whole)).2
  · intro others error other
    exact other.unique reads
  · intro more success
    have whole : arguments = occurrences.flatMap Occurrence.arguments :=
      reads_none.1 (success ▸ reads)
    rw [whole, parse_occurrences, hparsed]
  · intro flag set
    rw [isSet, values flag, Option.isSome_or]
    exact Bool.or_eq_true_iff.2 (.inr set)

/-- A directory that is called like a switch, and then one that is called by nothing; the error comes
with more arguments. -/
theorem directory_named_twice :
    let flags := Flags.set {} .quiet switchedOn
    let arguments := ["-C", "-h", "--directory", "", "-v"]
    let more := ["--no-color", "", "-h"]
    let occurrences : List Occurrence :=
      [⟨.directory, "-C", some "-h", by decide, rfl⟩,
        ⟨.directory, "--directory", some "", by decide, rfl⟩, ⟨.version, "-v", none, by decide, rfl⟩]
    Reads arguments occurrences none ∧ (flags.parse arguments).2 = none ∧
      (∀ flag, (flags.parse arguments).1.value? flag =
        (Occurrence.lastValue? flag occurrences).or (flags.value? flag)) ∧
      flags.parse (arguments ++ more) = (flags.parse arguments).1.parse more ∧
      flags.isSet .quiet = true ∧ (flags.parse arguments).1.isSet .quiet = true := by
  intro flags arguments more occurrences
  have reads : Reads arguments occurrences none := reads_none.2 rfl
  obtain ⟨-, ⟨read, -, unique, values⟩, later, stays, -⟩ := parsing_follows_grammar flags arguments
  obtain ⟨rfl, success⟩ := unique occurrences none reads
  exact ⟨reads, success.symm, values, later more success.symm, rfl, stays .quiet rfl⟩

end Flags

end ThemedShell
