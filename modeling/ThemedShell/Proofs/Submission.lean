import Mathlib.Data.List.DropRight
import ThemedShell.Submission

/-!
# Words and arguments of lines

A text is stripped if it neither begins nor ends with a blank. Trimming gives a stripped text and
leaves stripped texts alone; so a line and the line without the blanks around it are parsed alike,
and an argument is empty as soon as it holds blanks only. No two built-ins have the same verb, so
the first word of a line settles which of them is meant.
-/
namespace ThemedShell

namespace Text

/-- No blank stands at either end. -/
structure Stripped (cs : List Char) : Prop where
  head : ∀ c ∈ cs.head?, isBlank c = false
  last : ∀ c ∈ cs.getLast?, isBlank c = false

theorem head?_dropBlanks (cs : List Char) : ∀ c ∈ (dropBlanks cs).head?, isBlank c = false := by
  intro c hc
  have := List.head?_dropWhile_not isBlank cs
  rw [show List.dropWhile isBlank cs = dropBlanks cs from rfl, Option.mem_def.1 hc] at this
  simpa using this

theorem dropBlanks_eq_self {cs : List Char} (h : ∀ c ∈ cs.head?, isBlank c = false) :
    dropBlanks cs = cs := by
  cases cs with
  | nil => rfl
  | cons c rest => simp [dropBlanks, h c rfl]

theorem getLast?_dropBlanksEnd (cs : List Char) :
    ∀ c ∈ (dropBlanksEnd cs).getLast?, isBlank c = false := by
  simpa [dropBlanksEnd] using head?_dropBlanks cs.reverse

theorem dropBlanksEnd_eq_self {cs : List Char} (h : ∀ c ∈ cs.getLast?, isBlank c = false) :
    dropBlanksEnd cs = cs := by
  rw [dropBlanksEnd, dropBlanks_eq_self (by simpa using h), List.reverse_reverse]

theorem dropBlanksEnd_prefix (cs : List Char) : dropBlanksEnd cs <+: cs :=
  List.rdropWhile_prefix isBlank cs

theorem stripped_stripBlanks (cs : List Char) : Stripped (stripBlanks cs) where
  head c hc := by
    -- What is cut off at the end leaves the first character where it was.
    refine head?_dropBlanks cs c ?_
    obtain ⟨cut, hcut⟩ := dropBlanksEnd_prefix (dropBlanks cs)
    rw [← hcut, List.head?_append, show dropBlanksEnd (dropBlanks cs) = stripBlanks cs from rfl,
      Option.mem_def.1 hc]
    rfl
  last := getLast?_dropBlanksEnd _

theorem Stripped.stripBlanks_eq {cs : List Char} (h : Stripped cs) : stripBlanks cs = cs := by
  rw [stripBlanks, dropBlanks_eq_self h.head, dropBlanksEnd_eq_self h.last]

theorem stripBlanks_stripBlanks (cs : List Char) :
    stripBlanks (stripBlanks cs) = stripBlanks cs :=
  (stripped_stripBlanks cs).stripBlanks_eq

/-- Blanks are cut off from the second part, and if this holds nothing else, from the first. -/
theorem dropBlanksEnd_append (cs ds : List Char) :
    dropBlanksEnd (cs ++ ds) =
      if dropBlanksEnd ds = [] then dropBlanksEnd cs else cs ++ dropBlanksEnd ds := by
  simp only [dropBlanksEnd, dropBlanks, List.reverse_append, List.dropWhile_append,
    List.isEmpty_iff, List.reverse_eq_nil_iff]
  split
  · rfl
  · rw [List.reverse_append, List.reverse_reverse]

theorem dropBlanks_of_blank {cs : List Char} (h : ∀ c ∈ cs, isBlank c = true) :
    dropBlanks cs = [] :=
  List.dropWhile_eq_nil_iff.2 h

theorem dropBlanksEnd_eq_nil {cs : List Char} :
    dropBlanksEnd cs = [] ↔ ∀ c ∈ cs, isBlank c = true := by
  rw [dropBlanksEnd, List.reverse_eq_nil_iff, dropBlanks, List.dropWhile_eq_nil_iff]
  simp

theorem dropBlanksEnd_of_blank {cs : List Char} (h : ∀ c ∈ cs, isBlank c = true) :
    dropBlanksEnd cs = [] :=
  dropBlanksEnd_eq_nil.2 h

theorem stripBlanks_eq_nil {cs : List Char} :
    stripBlanks cs = [] ↔ ∀ c ∈ cs, isBlank c = true := by
  constructor
  · intro empty
    have blank : ∀ c ∈ dropBlanks cs, isBlank c = true := dropBlanksEnd_eq_nil.1 empty
    have none : dropBlanks cs = [] := by
      cases hcs : dropBlanks cs with
      | nil => rfl
      | cons c rest =>
        have solid := head?_dropBlanks cs c (by rw [hcs]; rfl)
        rw [blank c (by simp [hcs])] at solid
        cases solid
    exact List.dropWhile_eq_nil_iff.1 none
  · intro blank
    rw [stripBlanks, dropBlanks_of_blank blank]
    rfl

/-- It does not matter at which end blanks are cut off first. -/
theorem dropBlanks_dropBlanksEnd (cs : List Char) :
    dropBlanks (dropBlanksEnd cs) = stripBlanks cs := by
  have blank : ∀ c ∈ cs.takeWhile isBlank, isBlank c = true := fun c hc =>
    List.mem_takeWhile_imp hc
  have cut : cs = cs.takeWhile isBlank ++ dropBlanks cs :=
    List.takeWhile_append_dropWhile.symm
  conv => lhs; rw [cut]
  rw [dropBlanksEnd_append, show dropBlanksEnd (dropBlanks cs) = stripBlanks cs from rfl]
  split
  · next empty => rw [dropBlanksEnd_of_blank blank, empty]; rfl
  · rw [dropBlanks, List.dropWhile_append_of_pos blank]
    exact dropBlanks_eq_self (stripped_stripBlanks cs).head

theorem trim_eq_empty {s : String} : trim s = "" ↔ isBlankText s = true := by
  rw [← String.toList_eq_nil_iff, toList_trim, stripBlanks_eq_nil, isBlankText, List.all_eq_true]

/-- Blanks that are cut off twice are cut off once. -/
theorem trim_trimEnd (s : String) : trim (trimEnd s) = trim s := by
  rw [← String.toList_inj, toList_trim, toList_trim, toList_trimEnd, stripBlanks,
    dropBlanks_dropBlanksEnd, dropBlanksEnd_eq_self (stripped_stripBlanks s.toList).last]

/-- A text that begins with no blank holds blanks only if it is empty. -/
theorem isBlankText_iff {s : String} (h : ∀ c ∈ s.toList.head?, isBlank c = false) :
    isBlankText s = true ↔ s = "" := by
  rw [isBlankText, ← String.toList_eq_nil_iff]
  cases hs : s.toList with
  | nil => simp
  | cons c rest => simp [h c (by rw [hs]; rfl)]

end Text

namespace Submission

theorem parse_trim (line : String) : parse (Text.trim line) = parse line := by
  simp only [parse, Text.toList_trim, Text.stripBlanks_stripBlanks]

theorem head?_argument (line : String) :
    ∀ c ∈ (parse line).argument.toList.head?, Text.isBlank c = false := by
  simpa [parse] using Text.head?_dropBlanks (afterWord (Text.stripBlanks line.toList))

theorem isBlankText_argument (line : String) :
    Text.isBlankText (parse line).argument = true ↔ (parse line).argument = "" :=
  Text.isBlankText_iff (head?_argument line)

/-- The argument stands at the end of the line as it was written. -/
theorem argument_suffix (line : String) :
    (parse line).argument.toList <:+ (Text.trim line).toList := by
  simp only [parse, String.toList_ofList, Text.toList_trim]
  exact (List.dropWhile_suffix _).trans (List.dropWhile_suffix _)

theorem verb_of_blank {line : String} (blank : Text.trim line = "") :
    (parse line).verb = "" := by
  have : Text.stripBlanks line.toList = [] := by rw [← Text.toList_trim, blank]; rfl
  simp only [parse, this]
  rfl

/-- The first word of a line, as it was written. -/
def word (line : String) : String := .ofList (firstWord (Text.trim line).toList)

theorem verb_eq (line : String) : (parse line).verb = Text.lowercase (word line) := by
  rw [word, Text.toList_trim]
  rfl

/-- A word ends where the first blank behind it stands. -/
theorem firstWord_append {word behind : List Char} (solid : ∀ c ∈ word, Text.isBlank c = false)
    (parted : ∀ c ∈ behind.head?, Text.isBlank c = true) :
    firstWord (word ++ behind) = word ∧ afterWord (word ++ behind) = behind := by
  have solid : ∀ c ∈ word, (!Text.isBlank c) = true := fun c hc => by simp [solid c hc]
  rw [firstWord, afterWord, List.takeWhile_append_of_pos solid, List.dropWhile_append_of_pos solid]
  cases behind with
  | nil => simp
  | cons c rest => simp [parted c rfl]

/-- A word, blanks and a text are parsed as the word and what the text holds between its blanks. -/
theorem parse_word_append {word blanks : String} (solid : word.toList.any Text.isBlank = false)
    (named : word ≠ "") (blank : Text.isBlankText blanks = true) (parted : blanks ≠ "")
    (text : String) :
    parse (word ++ blanks ++ text) =
      { verb := Text.lowercase word, argument := Text.trim text } := by
  have solid : ∀ c ∈ word.toList, Text.isBlank c = false := by
    simpa [List.any_eq_false] using solid
  have blank : ∀ c ∈ blanks.toList, Text.isBlank c = true := by
    simpa [Text.isBlankText, List.all_eq_true] using blank
  -- What is left behind the word is nothing, or it begins with a blank.
  let behind := if Text.dropBlanksEnd text.toList = [] then []
    else blanks.toList ++ Text.dropBlanksEnd text.toList
  have first : ∀ c ∈ (word.toList ++ (blanks.toList ++ text.toList)).head?,
      Text.isBlank c = false := by
    cases hword : word.toList with
    | nil => exact absurd (String.toList_eq_nil_iff.1 hword) named
    | cons c rest => simpa using solid c (by simp [hword])
  have last : Text.dropBlanksEnd word.toList = word.toList :=
    Text.dropBlanksEnd_eq_self fun c hc => solid c (List.mem_of_getLast? hc)
  have stripped : Text.stripBlanks (word ++ blanks ++ text).toList = word.toList ++ behind := by
    rw [String.toList_append, String.toList_append, List.append_assoc, Text.stripBlanks,
      Text.dropBlanks_eq_self first, Text.dropBlanksEnd_append, last, Text.dropBlanksEnd_append,
      Text.dropBlanksEnd_of_blank blank]
    simp only [behind]
    split
    · simp
    · next kept => simp [kept]
  have start : ∀ c ∈ behind.head?, Text.isBlank c = true := by
    simp only [behind]
    split
    · simp
    · cases hblanks : blanks.toList with
      | nil => exact absurd (String.toList_eq_nil_iff.1 hblanks) parted
      | cons c rest => simpa using blank c (by simp [hblanks])
  have argument : Text.dropBlanks behind = Text.stripBlanks text.toList := by
    rw [← Text.dropBlanks_dropBlanksEnd]
    simp only [behind]
    split
    · next empty => rw [empty]
    · rw [Text.dropBlanks, List.dropWhile_append_of_pos blank, Text.dropBlanks]
  obtain ⟨hfirst, hafter⟩ := firstWord_append solid start
  rw [parse, stripped, hfirst, hafter, argument, String.ofList_toList, Text.trim]

end Submission

/-! ## Verbs -/

namespace Builtin

theorem verb_injective {a b : Builtin} (h : a.verb = b.verb) : a = b := by
  rcases a with _ | _ | _ | _ | _ | ⟨_ | _⟩ | _ | _ <;>
    rcases b with _ | _ | _ | _ | _ | ⟨_ | _⟩ | _ | _ <;>
    first | rfl | exact absurd h (by decide)

theorem verb_ne_empty (b : Builtin) : b.verb ≠ "" := by
  rcases b with _ | _ | _ | _ | _ | ⟨_ | _⟩ | _ | _ <;> decide

theorem ofVerb?_eq_some {verb : String} {b : Builtin} : ofVerb? verb = some b ↔ verb = b.verb := by
  constructor
  · intro h
    have : b.verb = verb := by simpa using List.find?_some h
    exact this.symm
  · rintro rfl
    have found : (ofVerb? b.verb).isSome = true :=
      List.find?_isSome.2 ⟨b, mem_all b, by simp⟩
    obtain ⟨a, ha⟩ := Option.isSome_iff_exists.1 found
    have : a = b := verb_injective (by simpa using List.find?_some ha)
    exact this ▸ ha

end Builtin

theorem isBuiltin_congr {word other : String} (h : Text.lowercase word = Text.lowercase other) :
    isBuiltin word = isBuiltin other := by
  rw [isBuiltin, isBuiltin, h]

end ThemedShell
