import Mathlib.Logic.ExistsUnique
import ThemedShell.Proofs.Lowercase
import ThemedShell.Proofs.Submission

/-!
# The grammar of lines

A line is a word, blanks and an argument, with blanks around them, and it is so in one way only
(`Reads.eq`). Parsing gives the word in lower case and the argument as it stands. It does not
depend on the blanks, and it leaves alone what it has given once, since a word in lower case is a
word and stays as it is (`line_is_read_in_one_way`).
-/
namespace ThemedShell

namespace Text

/-- Blanks around a text are cut off with its own. -/
theorem stripBlanks_around {before after : List Char} (hbefore : ∀ c ∈ before, isBlank c = true)
    (hafter : ∀ c ∈ after, isBlank c = true) (cs : List Char) :
    stripBlanks (before ++ (cs ++ after)) = stripBlanks cs := by
  rw [stripBlanks, dropBlanks, List.dropWhile_append_of_pos hbefore]
  show stripBlanks (cs ++ after) = stripBlanks cs
  rw [← dropBlanks_dropBlanksEnd, dropBlanksEnd_append, if_pos (dropBlanksEnd_of_blank hafter),
    dropBlanks_dropBlanksEnd]

theorem trim_around {before after : String} (hbefore : isBlankText before = true)
    (hafter : isBlankText after = true) (s : String) : trim (before ++ s ++ after) = trim s := by
  rw [isBlankText, List.all_eq_true] at hbefore hafter
  rw [← String.toList_inj, toList_trim, toList_trim, String.toList_append, String.toList_append,
    List.append_assoc, stripBlanks_around hbefore hafter]

/-- What ends a stripped text is stripped at its end. -/
theorem Stripped.last_of_suffix {cs ending : List Char} (h : Stripped cs) (suffix : ending <:+ cs) :
    ∀ c ∈ ending.getLast?, isBlank c = false := by
  obtain ⟨start, rfl⟩ := suffix
  intro c hc
  exact h.last c (by rw [List.getLast?_append, Option.mem_def.1 hc]; rfl)

end Text

namespace Submission

/-- Without the blanks around it, the line is a word, blanks and an argument. Only a blank line has
no word, and there are blanks between word and argument exactly if there is an argument. -/
structure Reads (line word blanks argument : String) : Prop where
  solid : word.toList.any Text.isBlank = false
  blank : Text.isBlankText blanks = true
  stripped : Text.Stripped argument.toList
  named : word = "" → Text.isBlankText line = true
  parted : blanks = "" ↔ argument = ""
  whole : Text.trim line = word ++ blanks ++ argument

/-! ## The parts of a line -/

theorem toList_argument (line : String) :
    (parse line).argument.toList = Text.dropBlanks (afterWord (Text.trim line).toList) := by
  rw [Text.toList_trim, parse, String.toList_ofList]

/-- The blanks between the first word of a line and its argument. -/
def separator (line : String) : String :=
  .ofList ((afterWord (Text.trim line).toList).takeWhile Text.isBlank)

/-- What stands behind the first word begins with a blank. -/
theorem head?_afterWord (cs : List Char) :
    ∀ c ∈ (afterWord cs).head?, Text.isBlank c = true := by
  intro c hc
  have := List.head?_dropWhile_not (fun c => !Text.isBlank c) cs
  rw [show cs.dropWhile _ = afterWord cs from rfl, Option.mem_def.1 hc] at this
  simpa using this

/-- Behind the first word of a stripped text stands nothing, or an argument behind blanks. -/
theorem takeWhile_afterWord_eq_nil {cs : List Char} (h : Text.Stripped cs) :
    (afterWord cs).takeWhile Text.isBlank = [] ↔ Text.dropBlanks (afterWord cs) = [] := by
  have suffix : afterWord cs <:+ cs := List.dropWhile_suffix _
  cases hafter : afterWord cs with
  | nil => simp [Text.dropBlanks]
  | cons c rest =>
    have blank : Text.isBlank c = true := head?_afterWord cs c (by rw [hafter]; rfl)
    have kept : Text.dropBlanks (c :: rest) ≠ [] := by
      intro none
      have last := h.last_of_suffix suffix
      rw [hafter] at last
      have := last _ (List.getLast?_eq_some_getLast (List.cons_ne_nil c rest))
      rw [List.dropWhile_eq_nil_iff.1 none _ (List.getLast_mem (List.cons_ne_nil c rest))] at this
      cases this
    simp [blank, kept]

/-- Every line has these parts. -/
theorem reads_parts (line : String) :
    Reads line (word line) (separator line) (parse line).argument := by
  have stripped : Text.Stripped (Text.trim line).toList := by
    rw [Text.toList_trim]
    exact Text.stripped_stripBlanks line.toList
  refine ⟨?solid, ?blank, ⟨head?_argument line, stripped.last_of_suffix (argument_suffix line)⟩,
    ?named, ?parted, ?whole⟩
  case solid =>
    rw [word, String.toList_ofList, List.any_eq_false]
    intro c hc
    simpa using List.mem_takeWhile_imp hc
  case blank =>
    rw [separator, Text.isBlankText, String.toList_ofList, List.all_eq_true]
    exact fun c hc => List.mem_takeWhile_imp hc
  case named =>
    intro unnamed
    have none : firstWord (Text.trim line).toList = [] := by
      rw [← String.toList_ofList (l := firstWord _), ← word, unnamed]
      rfl
    have empty : (Text.trim line).toList = [] := by
      cases hcs : (Text.trim line).toList with
      | nil => rfl
      | cons c rest =>
        have solid := stripped.head c (by rw [hcs]; rfl)
        simp [hcs, firstWord, solid] at none
    rw [Text.isBlankText, List.all_eq_true]
    exact Text.stripBlanks_eq_nil.1 (by rw [← Text.toList_trim, empty])
  case parted =>
    rw [← String.toList_eq_nil_iff, separator, String.toList_ofList, ← String.toList_eq_nil_iff,
      toList_argument]
    exact takeWhile_afterWord_eq_nil stripped
  case whole =>
    rw [← String.toList_inj, String.toList_append, String.toList_append, toList_argument, word,
      separator, String.toList_ofList, String.toList_ofList, List.append_assoc, Text.dropBlanks,
      List.takeWhile_append_dropWhile, firstWord, afterWord, List.takeWhile_append_dropWhile]

/-- A line has no other parts. -/
theorem Reads.eq {line first blanks argument : String} (h : Reads line first blanks argument) :
    first = word line ∧ blanks = separator line ∧ argument = (parse line).argument := by
  have solid : ∀ c ∈ first.toList, Text.isBlank c = false := by
    simpa [List.any_eq_false] using h.solid
  have blank : ∀ c ∈ blanks.toList, Text.isBlank c = true := by
    simpa [Text.isBlankText, List.all_eq_true] using h.blank
  have whole : (Text.trim line).toList = first.toList ++ (blanks.toList ++ argument.toList) := by
    rw [h.whole, String.toList_append, String.toList_append, List.append_assoc]
  have behind : ∀ c ∈ (blanks.toList ++ argument.toList).head?, Text.isBlank c = true := by
    cases hblanks : blanks.toList with
    | nil =>
      have none : argument = "" := h.parted.1 (String.toList_eq_nil_iff.1 hblanks)
      simp [none]
    | cons c rest =>
      intro d hd
      exact blank d (by simp_all)
  obtain ⟨hfirst, hafter⟩ := firstWord_append solid behind
  rw [← whole] at hfirst hafter
  have kept : argument.toList.dropWhile Text.isBlank = argument.toList :=
    Text.dropBlanks_eq_self h.stripped.head
  have cut : argument.toList.takeWhile Text.isBlank = [] := by
    have := List.takeWhile_append_dropWhile (p := Text.isBlank) (l := argument.toList)
    rw [kept] at this
    exact List.append_left_eq_self.1 this
  refine ⟨?_, ?_, ?_⟩
  · rw [word, hfirst, String.ofList_toList]
  · rw [separator, hafter, List.takeWhile_append_of_pos blank, cut, List.append_nil,
      String.ofList_toList]
  · rw [← String.toList_inj, toList_argument, hafter, Text.dropBlanks,
      List.dropWhile_append_of_pos blank, kept]

/-! ## Parsing -/

variable {line first blanks argument : String}

theorem parse_congr {other : String} (h : Text.trim line = Text.trim other) :
    parse line = parse other := by
  rw [← parse_trim line, h, parse_trim]

theorem parse_of_blank (h : Text.isBlankText line = true) : parse line = ⟨"", ""⟩ := by
  have none : Text.stripBlanks line.toList = [] :=
    Text.stripBlanks_eq_nil.2 (by simpa [Text.isBlankText] using h)
  rw [parse, none]
  rfl

theorem Reads.parse_eq (h : Reads line first blanks argument) :
    parse line = { verb := Text.lowercase first, argument } := by
  obtain ⟨rfl, -, rfl⟩ := h.eq
  rw [← verb_eq]

theorem Reads.trim_argument (h : Reads line first blanks argument) :
    Text.trim argument = argument := by
  rw [Text.trim, h.stripped.stripBlanks_eq, String.ofList_toList]

/-- What parts the word from the argument does not matter. -/
theorem Reads.parse_parted (h : Reads line first blanks argument) (hblanks : blanks ≠ "")
    {other : String} (blank : Text.isBlankText other = true) (parted : other ≠ "") :
    parse (first ++ other ++ argument) = parse line := by
  have named : first ≠ "" := by
    intro unnamed
    -- A blank line has no argument, and so nothing to be parted.
    have nothing : argument = "" := by
      simpa [h.parse_eq] using congrArg Submission.argument (parse_of_blank (h.named unnamed))
    exact hblanks (h.parted.2 nothing)
  rw [parse_word_append h.solid named blank parted, h.trim_argument, h.parse_eq]

/-- Parsing leaves alone what it has given. -/
theorem parse_again (line : String) :
    parse ((parse line).verb ++ " " ++ (parse line).argument) = parse line := by
  have h := reads_parts line
  by_cases unnamed : word line = ""
  · rw [parse_of_blank (h.named unnamed)]
    exact parse_of_blank (by decide)
  · have named : Text.lowercase (word line) ≠ "" := Text.lowercase_eq_empty.not.2 unnamed
    rw [verb_eq, parse_word_append (Text.lowercase_solid h.solid) named (by decide) (by decide),
      Text.lowercase_lowercase, h.trim_argument, ← verb_eq]

/-- **The grammar of lines.** Without the blanks around it, each line is a word, blanks and an
argument in exactly one way. Parsing gives the word in lower case and the argument as it stands;
neither other blanks between them nor more blanks around the line make a difference. What has been
parsed, with one space between verb and argument, is parsed as itself. -/
theorem line_is_read_in_one_way (line : String) :
    (∃! parts : String × String × String, Reads line parts.1 parts.2.1 parts.2.2) ∧
      (∀ first blanks argument, Reads line first blanks argument →
        parse line = { verb := Text.lowercase first, argument } ∧
        ∀ other, blanks ≠ "" → other ≠ "" → Text.isBlankText other = true →
          parse (first ++ other ++ argument) = parse line) ∧
      (∀ before after, Text.isBlankText before = true → Text.isBlankText after = true →
        parse (before ++ line ++ after) = parse line) ∧
      parse ((parse line).verb ++ " " ++ (parse line).argument) = parse line := by
  refine ⟨⟨⟨word line, separator line, (parse line).argument⟩, reads_parts line, ?unique⟩,
    fun first blanks argument reads => ⟨reads.parse_eq, ?parted⟩, ?around, parse_again line⟩
  case unique =>
    rintro ⟨first, blanks, argument⟩ reads
    obtain ⟨rfl, rfl, rfl⟩ := reads.eq
    rfl
  case parted => exact fun other hblanks parted blank => reads.parse_parted hblanks blank parted
  case around =>
    exact fun before after hbefore hafter => parse_congr (Text.trim_around hbefore hafter line)

/-- A sigma at the end of the word, an argument with blanks of its own, and other blanks. -/
theorem greek_line_is_read :
    let line := "\u2003ΟΔΟΣ\u00a0\t a  b\n"
    Reads line "ΟΔΟΣ" "\u00a0\t " "a  b" ∧ parse line = ⟨"οδος", "a  b"⟩ ∧
      parse ("ΟΔΟΣ" ++ "\u3000" ++ "a  b") = ⟨"οδος", "a  b"⟩ ∧
      parse ("\r" ++ line ++ "\u2028") = ⟨"οδος", "a  b"⟩ := by
  intro line
  have unpadded : Text.stripBlanks "a  b".toList = "a  b".toList := by decide
  have reads : Reads line "ΟΔΟΣ" "\u00a0\t " "a  b" :=
    { solid := by decide
      blank := by decide
      stripped := unpadded ▸ Text.stripped_stripBlanks _
      named := by decide
      parted := by decide
      whole := by decide }
  obtain ⟨-, parts, around, -⟩ := line_is_read_in_one_way line
  obtain ⟨parsed, parted⟩ := parts _ _ _ reads
  have lower : Text.lowercase "ΟΔΟΣ" = "οδος" := by decide +kernel
  rw [lower] at parsed
  refine ⟨reads, parsed, ?_, ?_⟩
  · rw [parted "\u3000" (by decide) (by decide) (by decide), parsed]
  · rw [around "\r" "\u2028" (by decide) (by decide), parsed]

end Submission

end ThemedShell
