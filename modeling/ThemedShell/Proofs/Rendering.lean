import ThemedShell.Proofs.CommandResult
import ThemedShell.Proofs.Submission
import ThemedShell.Proofs.Turn

/-!
# How results are shown

The output of an external command is shown line by line; joined again, the lines are the output but
for the end of its last line and for the carriage returns before line feeds (`linesOf_lines`). What
it has written as errors is shown as one line, without the blanks at its end. If that is nothing, a
failure is shown by its status (`external_result_is_shown`).
-/
namespace ThemedShell

variable {σ : Type}

namespace Text

/-! ## Ends of lines -/

/-- The text without the carriage returns that stand before line feeds. -/
def bareFeeds : List Char → List Char
  | [] => []
  | c :: rest =>
    if c = '\r' ∧ rest.head? = some '\n' then bareFeeds rest else c :: bareFeeds rest

/-- The text without a line feed at its end. -/
def dropLastFeed (cs : List Char) : List Char :=
  if cs.getLast? = some '\n' then cs.dropLast else cs

/-- A text is one line without a line feed, or such a line, a line feed and a text. -/
@[elab_as_elim]
theorem feed_induction {motive : List Char → Prop}
    (unbroken : ∀ line, '\n' ∉ line → motive line)
    (broken : ∀ line rest, '\n' ∉ line → motive rest → motive (line ++ '\n' :: rest))
    (cs : List Char) : motive cs := by
  by_cases h : '\n' ∈ cs
  · obtain ⟨line, rest, hcs, hline⟩ := List.eq_append_cons_of_mem h
    have shorter : rest.length < cs.length := by
      rw [hcs, List.length_append, List.length_cons]
      omega
    rw [hcs]
    exact broken line rest hline (feed_induction unbroken broken rest)
  · exact unbroken cs h
termination_by cs.length

/-- What becomes of a line that a line feed ends. -/
theorem bareFeeds_append_feed {line : List Char} (unbroken : '\n' ∉ line) (rest : List Char) :
    bareFeeds (line ++ '\n' :: rest) = dropReturn line ++ '\n' :: bareFeeds rest := by
  induction line with
  | nil => simp [bareFeeds, dropReturn]
  | cons c line ih =>
    have unbroken : '\n' ∉ line := fun h => unbroken (List.mem_cons_of_mem c h)
    cases line with
    | nil => by_cases hc : c = '\r' <;> simp [bareFeeds, dropReturn, hc]
    | cons d line =>
      have hd : d ≠ '\n' := fun h => unbroken (by simp [h])
      have kept : dropReturn (c :: d :: line) = c :: dropReturn (d :: line) := by
        rw [dropReturn, dropReturn, List.getLast?_cons_cons]
        split <;> simp
      rw [List.cons_append, bareFeeds, if_neg (by simp [hd]), ih unbroken, kept, List.cons_append]

/-- A carriage return is left out only before a line feed. -/
theorem bareFeeds_of_not_mem {cs : List Char} (h : '\n' ∉ cs) : bareFeeds cs = cs := by
  induction cs with
  | nil => rfl
  | cons c cs ih =>
    have h : '\n' ∉ cs := fun hmem => h (List.mem_cons_of_mem c hmem)
    have : cs.head? ≠ some '\n' := fun head => h (List.mem_of_head? head)
    rw [bareFeeds, if_neg fun both => this both.2, ih h]

theorem bareFeeds_eq_nil {cs : List Char} : bareFeeds cs = [] ↔ cs = [] := by
  induction cs using feed_induction with
  | unbroken cs unbroken => rw [bareFeeds_of_not_mem unbroken]
  | broken line rest unbroken ih => simp [bareFeeds_append_feed unbroken]

theorem dropLastFeed_of_not_mem {cs : List Char} (h : '\n' ∉ cs) : dropLastFeed cs = cs :=
  if_neg fun last => h (List.mem_of_getLast? last)

theorem dropLastFeed_append_feed (cs ds : List Char) :
    dropLastFeed (cs ++ '\n' :: ds) = if ds = [] then cs else cs ++ '\n' :: dropLastFeed ds := by
  cases ds with
  | nil => simp [dropLastFeed]
  | cons d ds =>
    rw [dropLastFeed, List.getLast?_append_cons, List.getLast?_cons_cons,
      if_neg (List.cons_ne_nil d ds), dropLastFeed]
    split
    · rw [List.dropLast_append_of_ne_nil (List.cons_ne_nil _ _), List.dropLast_cons_cons]
    · rfl

/-! ## Lines -/

/-- The lines of a text, as lists of characters. -/
def charLines (cs : List Char) : List (List Char) := endedLines (cs.splitOn '\n')

theorem charLines_of_not_mem {cs : List Char} (h : '\n' ∉ cs) :
    charLines cs = if cs = [] then [] else [cs] := by
  rw [charLines, List.splitOn_eq_singleton h, endedLines]

theorem charLines_append_feed {line : List Char} (unbroken : '\n' ∉ line) (rest : List Char) :
    charLines (line ++ '\n' :: rest) = dropReturn line :: charLines rest := by
  rw [charLines, List.splitOn_append_cons_self_of_not_mem unbroken, charLines]
  cases h : rest.splitOn '\n' with
  | nil => exact absurd h (List.splitOn_ne_nil _ _)
  | cons next others => rfl

theorem charLines_eq_nil {cs : List Char} : charLines cs = [] ↔ cs = [] := by
  induction cs using feed_induction with
  | unbroken cs unbroken =>
    rw [charLines_of_not_mem unbroken]
    split <;> simp [*]
  | broken line rest unbroken ih => simp [charLines_append_feed unbroken]

theorem not_mem_of_mem_charLines {cs line : List Char} (h : line ∈ charLines cs) : '\n' ∉ line := by
  induction cs using feed_induction with
  | unbroken cs unbroken =>
    rw [charLines_of_not_mem unbroken] at h
    split at h
    · cases h
    · rwa [List.mem_singleton.1 h]
  | broken first rest unbroken ih =>
    rw [charLines_append_feed unbroken] at h
    rcases List.mem_cons.1 h with rfl | h
    · rw [dropReturn]
      split
      · exact fun hmem => unbroken (List.dropLast_subset first hmem)
      · exact unbroken
    · exact ih h

/-- Joined again, the lines are the text but for the ends of lines. -/
theorem intercalate_charLines (cs : List Char) :
    ['\n'].intercalate (charLines cs) = dropLastFeed (bareFeeds cs) := by
  induction cs using feed_induction with
  | unbroken cs unbroken =>
    rw [charLines_of_not_mem unbroken, bareFeeds_of_not_mem unbroken,
      dropLastFeed_of_not_mem unbroken]
    split <;> simp [*]
  | broken line rest unbroken ih =>
    rw [charLines_append_feed unbroken, bareFeeds_append_feed unbroken, dropLastFeed_append_feed,
      ← ih]
    simp only [bareFeeds_eq_nil, ← @charLines_eq_nil rest]
    cases charLines rest with
    | nil => simp
    | cons next others => simp [List.intercalate_cons_cons]

/-- There is a line for each line feed, and one more if something stands behind the last of them. -/
theorem length_charLines (cs : List Char) :
    (charLines cs).length = cs.count '\n' + if cs.getLast?.any (· ≠ '\n') then 1 else 0 := by
  induction cs using feed_induction with
  | unbroken cs unbroken =>
    have last : ∀ c ∈ cs.getLast?, c ≠ '\n' := fun c hc e => unbroken (e ▸ List.mem_of_getLast? hc)
    rw [charLines_of_not_mem unbroken, List.count_eq_zero_of_not_mem unbroken]
    cases hlast : cs.getLast? with
    | none => simp [List.getLast?_eq_none_iff.1 hlast]
    | some c =>
      have : cs ≠ [] := by
        rintro rfl
        cases hlast
      simp [this, last c hlast]
  | broken line rest unbroken ih =>
    rw [charLines_append_feed unbroken, List.length_cons, ih, List.count_append,
      List.count_eq_zero_of_not_mem unbroken, List.count_cons_self, List.getLast?_append_cons,
      List.getLast?_cons]
    cases rest.getLast? with
    | none => simp
    | some c => simp; omega

/-- The lines of a text: none is broken; joined, they are the text with line feeds alone between
lines and nothing at the end of the last; and there is one for each line feed, and one more if
something stands behind the last of them. -/
structure LinesOf (lines : List String) (text : String) : Prop where
  unbroken : ∀ line ∈ lines, '\n' ∉ line.toList
  joined : ("\n".intercalate lines).toList = dropLastFeed (bareFeeds text.toList)
  length : lines.length =
    text.toList.count '\n' + if text.toList.getLast?.any (· ≠ '\n') then 1 else 0

theorem linesOf_lines (s : String) : LinesOf (lines s) s where
  unbroken line h := by
    obtain ⟨chars, hchars, rfl⟩ := List.mem_map.1 h
    simpa using not_mem_of_mem_charLines hchars
  joined := by
    rw [← intercalate_charLines, lines, charLines]
    simp
  length := by rw [← length_charLines, lines, List.length_map, charLines]

/-! ## Blanks at the end -/

theorem trimEnd_eq_empty {s : String} : trimEnd s = "" ↔ isBlankText s = true := by
  rw [← String.toList_eq_nil_iff, toList_trimEnd, dropBlanksEnd_eq_nil, isBlankText,
    List.all_eq_true]

/-- Nothing but blanks is cut off at the end, and all of them. -/
theorem exists_trimEnd_append (s : String) :
    (∃ blanks, s = trimEnd s ++ blanks ∧ isBlankText blanks = true) ∧
      ∀ c ∈ (trimEnd s).toList.getLast?, isBlank c = false := by
  refine ⟨⟨.ofList (s.toList.rtakeWhile isBlank), ?_, ?_⟩, ?_⟩
  · have whole : dropBlanksEnd s.toList ++ s.toList.rtakeWhile isBlank = s.toList :=
      List.rdropWhile_append_rtakeWhile
    rw [← String.toList_inj, String.toList_append, toList_trimEnd, String.toList_ofList, whole]
  · rw [isBlankText, String.toList_ofList, List.all_eq_true]
    exact fun c hc => List.mem_rtakeWhile_imp hc
  · rw [toList_trimEnd]
    exact getLast?_dropBlanksEnd s.toList

end Text

namespace Command

/-! ## The line behind the output -/

theorem complaint_eq (result : External.Result) :
    complaint result = if Text.isBlankText result.stderr then []
      else [.error ("ERROR: " ++ Text.trimEnd result.stderr)] := by
  simp only [complaint, String.isEmpty_iff, Text.trimEnd_eq_empty]

theorem statusNotice_eq (result : External.Result) :
    statusNotice result = if Text.isBlankText result.stderr = true ∧ result.status ≠ 0 then
      [.warning ("Process exited with status: " ++ toString result.status)] else [] := by
  have blank : (Text.trim (Text.trimEnd result.stderr)).isEmpty = Text.isBlankText result.stderr := by
    rw [Bool.eq_iff_iff, String.isEmpty_iff, Text.trim_trimEnd, Text.trim_eq_empty]
  rw [statusNotice, blank]
  simp [External.Result.succeeded, and_comm]

/-- Error text and status are looked at one after the other, but they never both give a line. -/
theorem complaint_or_statusNotice_eq_nil (result : External.Result) :
    complaint result = [] ∨ statusNotice result = [] := by
  rw [complaint_eq, statusNotice_eq]
  cases Text.isBlankText result.stderr <;> simp

theorem verdict_of_blank {result : External.Result}
    (blank : Text.isBlankText result.stderr = true) :
    verdict result = if result.status = 0 then []
      else [.warning ("Process exited with status: " ++ toString result.status)] := by
  rw [verdict, complaint_eq, statusNotice_eq, if_pos blank, List.nil_append]
  by_cases status : result.status = 0 <;> simp [blank, status]

theorem verdict_of_not_blank {result : External.Result}
    (speaks : Text.isBlankText result.stderr = false) :
    verdict result = [.error ("ERROR: " ++ Text.trimEnd result.stderr)] := by
  have complains : complaint result = [.error ("ERROR: " ++ Text.trimEnd result.stderr)] := by
    simp [complaint_eq, speaks]
  have silent := (complaint_or_statusNotice_eq_nil result).resolve_left (by simp [complains])
  rw [verdict, complains, silent, List.append_nil]

/-- What follows the output: one line at most. It is an error exactly if something that is no blank
has been written as an error; else a warning exactly if the command has failed. -/
structure ClosedBy (last : Option Line) (result : External.Result) : Prop where
  error_iff : (∃ text, last = some (.error text)) ↔
    ∃ c ∈ result.stderr.toList, Text.isBlank c = false
  error_text : ∀ text, last = some (.error text) → ∃ kept blanks,
    text = "ERROR: " ++ kept ∧ result.stderr = kept ++ blanks ∧
      Text.isBlankText blanks = true ∧ ∀ c ∈ kept.toList.getLast?, Text.isBlank c = false
  warning_iff : ∀ text, last = some (.warning text) ↔
    Text.isBlankText result.stderr = true ∧ result.status ≠ 0 ∧
      text = "Process exited with status: " ++ toString result.status
  none_iff : last = none ↔ Text.isBlankText result.stderr = true ∧ result.status = 0

theorem exists_closedBy (result : External.Result) :
    ∃ last : Option Line, verdict result = last.toList ∧ ClosedBy last result := by
  have speaks_iff : (∃ c ∈ result.stderr.toList, Text.isBlank c = false) ↔
      Text.isBlankText result.stderr = false := by
    simp [Text.isBlankText]
  cases blank : Text.isBlankText result.stderr with
  | false =>
    obtain ⟨⟨blanks, whole, hblanks⟩, last⟩ := Text.exists_trimEnd_append result.stderr
    refine ⟨some (.error ("ERROR: " ++ Text.trimEnd result.stderr)), verdict_of_not_blank blank,
      ⟨?_, ?_, ?_, ?_⟩⟩
    · exact ⟨fun _ => speaks_iff.2 blank, fun _ => ⟨_, rfl⟩⟩
    · intro text h
      exact ⟨Text.trimEnd result.stderr, blanks,
        (congrArg Line.text (Option.some.inj h)).symm, whole, hblanks, last⟩
    · intro text
      simp [blank, Line.error, Line.warning]
    · simp [blank]
  | true =>
    by_cases status : result.status = 0
    · refine ⟨none, by rw [verdict_of_blank blank, if_pos status]; rfl, ⟨?_, ?_, ?_, ?_⟩⟩
      · simp [speaks_iff, blank]
      · simp
      · simp [status]
      · simp [blank, status]
    · refine ⟨some (.warning ("Process exited with status: " ++ toString result.status)),
        by rw [verdict_of_blank blank, if_neg status]; rfl, ⟨?_, ?_, ?_, ?_⟩⟩
      · simp [speaks_iff, blank, Line.error, Line.warning]
      · simp [Line.error, Line.warning]
      · simp [blank, status, Line.warning, eq_comm]
      · simp [status]

/-- **How a result is shown.** When a command line has been run, its output is shown line by line,
and behind it one line at most. If something that is no blank has been written as an error, this is
an error with all that has been written as one, but for the blanks at its end; else, if the command
has failed, a warning with the status; else nothing. -/
theorem external_result_is_shown (host : Host σ) (commandLine : String) (run : Run σ)
    (result : External.Result)
    (answered : run.answer (host.launch commandLine run.session.directory) = .ok result) :
    ∃ (lines : List String) (last : Option Line),
      (runExternal host commandLine).perform run =
        (.ok .proceed, (run.after (host.launch commandLine run.session.directory)).told
          ((lines.map Line.plain ++ last.toList).map .append)) ∧
      Text.LinesOf lines result.stdout ∧ ClosedBy last result := by
  obtain ⟨last, hlast, closed⟩ := exists_closedBy result
  refine ⟨Text.lines result.stdout, last, ?_, Text.linesOf_lines result.stdout, closed⟩
  simp only [perform_runExternal, answered, render, hlast]

/-- Three lines, one of them empty and one with a carriage return of its own, and blanks only as
errors. -/
theorem blank_failure_is_shown :
    let result : External.Result := { stdout := "a\r\n\nb\r", stderr := " \n\t", status := -1 }
    let host : Host Unit := { Host.bare with launch := fun _ _ => pure (.ok result) }
    Run.bare.answer (host.launch "make" Run.bare.session.directory) = .ok result ∧
      ∃ lines : List String,
        ((runExternal host "make").perform .bare).2.calls =
          (lines.map Line.plain ++ [Line.warning "Process exited with status: -1"]).map .append ∧
        lines.length = 3 ∧ "\n".intercalate lines = "a\n\nb\r" := by
  intro result host
  have answered : Run.bare.answer (host.launch "make" Run.bare.session.directory) = .ok result := rfl
  obtain ⟨lines, last, performed, split, closed⟩ :=
    external_result_is_shown host "make" .bare result answered
  have warned : last = some (.warning "Process exited with status: -1") :=
    (closed.warning_iff _).2 ⟨by decide, by decide, by decide⟩
  refine ⟨answered, lines, ?_, split.length.trans (by decide), ?_⟩
  · rw [performed, warned]
    rfl
  · rw [← String.toList_inj, split.joined]
    decide

end Command

end ThemedShell
