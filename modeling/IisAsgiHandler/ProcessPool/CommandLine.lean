import IisAsgiHandler.Library.CommandLine
import IisAsgiHandler.Messages

/-!
# The command line of a pool

The executable is escaped, joined with the arguments, and copied into a buffer
of `char` for `::CreateProcess`.  The copy keeps the low byte of each wide
character, so what Windows splits is the configured command line only where all
characters have one byte.
-/

namespace IisAsgiHandler
namespace ProcessPool

/-- A `std::wstring`, as its 16-bit characters. -/
abbrev WString := List UInt16

/-- The characters of a wide string literal. -/
def wide (text : String) : WString :=
  text.toList.map fun character => UInt16.ofNat character.toNat

def quotationMark : UInt16 := 0x22

def backslash : UInt16 := 0x5c

/-- The argument rules of Windows: blanks are spaces and tabs. -/
def windowsAlphabet : CommandLine.Alphabet UInt16 where
  quote := quotationMark
  backslash := backslash
  blank character := character == 0x20 || character == 0x09
  quote_ne_backslash := by decide
  blank_quote := by decide
  blank_backslash := by decide

/-- The arguments of a command line. -/
def splitArguments (line : WString) : List WString :=
  CommandLine.split windowsAlphabet line

/-! ## `EscapeArgument` -/

/-- The characters that `find_first_of` looks for: space, tab, line feed,
vertical tab and quotation mark. -/
def needsQuotes (character : UInt16) : Bool :=
  character ∈ [0x20, 0x09, 0x0a, 0x0b, quotationMark]

/-- The stream and the count of backslashes, in the loop. -/
structure EscapeState where
  escaped : WString := [quotationMark]
  numBackslashes : Nat := 0

/-- One turn of the loop. -/
def EscapeState.read (state : EscapeState) (character : UInt16) : EscapeState :=
  if character = backslash then
    { state with numBackslashes := state.numBackslashes + 1 }
  else if character = quotationMark then
    { escaped := state.escaped ++
        List.replicate (state.numBackslashes * 2 + 1) backslash ++
        [quotationMark]
      numBackslashes := 0 }
  else
    { escaped := state.escaped ++
        List.replicate state.numBackslashes backslash ++ [character]
      numBackslashes := 0 }

def escapeArgument (argument : WString) : WString :=
  if argument.any needsQuotes = false then argument
  else
    let state := argument.foldl EscapeState.read {}
    state.escaped ++ List.replicate (state.numBackslashes * 2) backslash ++
      [quotationMark]

/-- What the loop has written is read, in quotes, as what it was given, up to
the backslashes that it still counts. -/
def EscapeState.Escapes (state : EscapeState) (argument : WString) : Prop :=
  ∃ current,
    CommandLine.Scanner.scan windowsAlphabet {} state.escaped =
      .inQuotes current ∧
    argument = current ++ List.replicate state.numBackslashes backslash

theorem EscapeState.Escapes.read
    {state : EscapeState}
    {argument : WString}
    (escapes : state.Escapes argument)
    (character : UInt16) :
    (state.read character).Escapes (argument ++ [character]) := by
  obtain ⟨current, scanned, rfl⟩ := escapes
  rw [EscapeState.read]
  split_ifs with isBackslash isQuote
  · refine ⟨current, scanned, ?_⟩
    rw [isBackslash, List.append_assoc, ← List.replicate_succ']
  · refine ⟨_, ?_, (List.append_nil _).symm⟩
    rw [List.append_assoc, CommandLine.Scanner.scan_append, scanned, isQuote]
    exact CommandLine.Scanner.scan_inQuotes_quote current state.numBackslashes
  · refine ⟨_, ?_, (List.append_nil _).symm⟩
    rw [List.append_assoc, CommandLine.Scanner.scan_append, scanned]
    exact CommandLine.Scanner.scan_inQuotes_other isBackslash isQuote current
      state.numBackslashes

/-- The loop, over the rest of an argument. -/
theorem EscapeState.Escapes.foldl
    {state : EscapeState}
    {before : WString}
    (escapes : state.Escapes before)
    (argument : WString) :
    (argument.foldl EscapeState.read state).Escapes (before ++ argument) := by
  induction argument generalizing state before with
  | nil => rwa [List.append_nil]
  | cons character argument inductionHypothesis =>
      have rest := inductionHypothesis (escapes.read character)
      rwa [List.append_assoc, List.singleton_append] at rest

/-- An ordinary character is neither a quotation mark nor a blank. -/
theorem ordinary_of_needsQuotes
    {character : UInt16}
    (free : needsQuotes character = false) :
    character ≠ windowsAlphabet.quote ∧
      windowsAlphabet.blank character = false := by
  simp only [needsQuotes, List.mem_cons, List.not_mem_nil, or_false,
    decide_eq_false_iff_not, not_or] at free
  obtain ⟨notSpace, notTab, -, -, notQuote⟩ := free
  exact ⟨notQuote, by simp [windowsAlphabet, notSpace, notTab]⟩

/-- A nonempty argument is read back from its escaped form. -/
theorem reads_escapeArgument
    {argument : WString}
    (nonempty : argument ≠ []) :
    CommandLine.Reads windowsAlphabet (escapeArgument argument) argument := by
  rw [escapeArgument]
  split
  next plain =>
    have ordinary := fun character member => ordinary_of_needsQuotes
      (Bool.eq_false_iff.mpr
        (List.any_eq_false.mp plain character member))
    obtain ⟨arguments, quoted, text⟩ :=
      CommandLine.Scanner.scan_plain {} ordinary
    exact ⟨arguments, quoted,
      CommandLine.Scanner.isSome_scan_plain {} nonempty ordinary, text⟩
  next =>
    have escapes : (argument.foldl EscapeState.read {}).Escapes argument :=
      EscapeState.Escapes.foldl ⟨[], rfl, rfl⟩ argument
    generalize argument.foldl EscapeState.read {} = state at escapes ⊢
    obtain ⟨current, scanned, rfl⟩ := escapes
    have closed : CommandLine.Scanner.scan windowsAlphabet {}
        (state.escaped ++ List.replicate (state.numBackslashes * 2) backslash ++
          [quotationMark]) =
        { current := some (current ++
            List.replicate state.numBackslashes backslash) } := by
      rw [List.append_assoc, CommandLine.Scanner.scan_append, scanned]
      exact CommandLine.Scanner.scan_inQuotes_close current state.numBackslashes
    constructor
    · rw [closed]
    · rw [closed]
    · rw [closed]
      rfl
    · rw [closed]
      exact List.append_nil _

/-- An escaped argument, then nothing or a blank, is split into the argument
and the rest. -/
theorem splitArguments_escapeArgument
    {argument : WString}
    (nonempty : argument ≠ [])
    {rest : WString}
    (apart : ∀ character ∈ rest.head?, character = 0x20 ∨ character = 0x09) :
    splitArguments (escapeArgument argument ++ rest) =
      argument :: splitArguments rest := by
  have reads := reads_escapeArgument nonempty
  apply CommandLine.split_append reads
  intro character first
  rcases apart character first with space | tab
  · rw [space]
    decide
  · rw [tab]
    decide

/-- Escaped arguments are recovered, with any text after a blank, from a line
in which they are joined by spaces, and from one another. -/
theorem escapeArgument_round_trip :
    (∀ argument : WString, argument ≠ [] → 0 ∉ argument →
      ∀ rest : WString,
        (∀ character ∈ rest.head?, character = 0x20 ∨ character = 0x09) →
          splitArguments (escapeArgument argument ++ rest) =
            argument :: splitArguments rest) ∧
      (∀ arguments : List WString,
        (∀ argument ∈ arguments, argument ≠ [] ∧ 0 ∉ argument) →
          splitArguments
              (List.intercalate [0x20] (arguments.map escapeArgument)) =
            arguments) ∧
      ∀ argument other : WString, argument ≠ [] → other ≠ [] →
        escapeArgument argument = escapeArgument other → argument = other := by
  refine ⟨?_, ?_, ?_⟩
  · intro argument nonempty _ rest apart
    exact splitArguments_escapeArgument nonempty apart
  · intro arguments all
    exact CommandLine.split_intercalate (by decide) fun argument member =>
      reads_escapeArgument (all argument member).1
  · intro argument other nonempty otherNonempty same
    have alone : ∀ {text : WString}, text ≠ [] →
        splitArguments (escapeArgument text ++ []) = text :: splitArguments [] :=
      fun nonempty => splitArguments_escapeArgument nonempty (by simp)
    have first := alone nonempty
    rw [same, alone otherNonempty] at first
    exact (List.cons_eq_cons.mp first).1.symm

/-- Backslashes before a quotation mark and at the end, and a tab after. -/
theorem escapeArgument_round_trip_sample :
    splitArguments (escapeArgument (wide "a\\\"b \\") ++ wide "\tx") =
        wide "a\\\"b \\" :: splitArguments (wide "\tx") ∧
      splitArguments (List.intercalate [0x20]
          ([wide "x y", wide "\\"].map escapeArgument)) =
        [wide "x y", wide "\\"] ∧
      (escapeArgument (wide "a") = escapeArgument (wide "a") →
        wide "a" = wide "a") :=
  ⟨escapeArgument_round_trip.1 _ (by decide) (by decide) _
      (fun character first => .inr (Option.some.inj first).symm),
    escapeArgument_round_trip.2.1 _ (by decide),
    escapeArgument_round_trip.2.2 _ _ (by decide) (by decide)⟩

/-- The loop writes what it reads, backslashes and quotation marks. -/
theorem EscapeState.mem_escaped_foldl
    {state : EscapeState}
    {argument : WString}
    {character : UInt16}
    (member : character ∈ (argument.foldl EscapeState.read state).escaped) :
    character ∈ state.escaped ∨ character ∈ argument ∨
      character = backslash ∨ character = quotationMark := by
  induction argument generalizing state with
  | nil => exact .inl member
  | cons read argument inductionHypothesis =>
      rcases inductionHypothesis member with written | later | special
      · have step : character ∈ state.escaped ∨ character = read ∨
            character = backslash ∨ character = quotationMark := by
          rw [EscapeState.read] at written
          split_ifs at written with isBackslash isQuote
          · exact .inl written
          all_goals
            simp only [List.mem_append, List.mem_replicate,
              List.mem_singleton] at written
            rcases written with (early | ⟨-, slash⟩) | last
          · exact .inl early
          · exact .inr (.inr (.inl slash))
          · exact .inr (.inr (.inr last))
          · exact .inl early
          · exact .inr (.inr (.inl slash))
          · exact .inr (.inl last)
        rcases step with early | same | special
        · exact .inl early
        · exact .inr (.inl (same ▸ List.mem_cons_self))
        · exact .inr (.inr special)
      · exact .inr (.inl (List.mem_cons_of_mem read later))
      · exact .inr (.inr special)

theorem mem_escapeArgument
    {argument : WString}
    {character : UInt16}
    (member : character ∈ escapeArgument argument) :
    character ∈ argument ∨ character = backslash ∨
      character = quotationMark := by
  rw [escapeArgument] at member
  split at member
  next => exact .inl member
  next =>
    simp only [List.mem_append, List.mem_replicate, List.mem_singleton] at member
    rcases member with (written | ⟨-, slash⟩) | quote
    · rcases EscapeState.mem_escaped_foldl written with first | rest
      · exact .inr (.inr (List.mem_singleton.mp first))
      · exact rest
    · exact .inr (.inl slash)
    · exact .inr (.inr quote)

/-! ## The launched command line -/

/-- The constructor's `m_command_line`. -/
def commandLine (process arguments : WString) : WString :=
  escapeArgument process ++ [0x20] ++ arguments

/-- `cmd_buffer`: each wide character is converted to a `char`, and the buffer
ends with a NUL. -/
def cmdBuffer (commandLine : WString) : Bytes :=
  commandLine.map UInt16.toUInt8 ++ [0]

/-- The text that `::CreateProcess` finds in the buffer, with each byte as the
character of the same value. -/
def launchedLine (process arguments : WString) : WString :=
  (cStr (cmdBuffer (commandLine process arguments))).map UInt8.toUInt16

/-- A character that a `char` can hold. -/
def IsNarrow (character : UInt16) : Prop := character < 256

theorem isNarrow_of_all
    {text : WString}
    (all : text.all (· < 256) = true) :
    ∀ character ∈ text, IsNarrow character := by
  intro character member
  unfold IsNarrow
  exact of_decide_eq_true (List.all_eq_true.mp all character member)

/-- Everything in the launched text has one byte. -/
theorem isNarrow_of_mem_launchedLine
    {process arguments : WString}
    {character : UInt16}
    (member : character ∈ launchedLine process arguments) :
    IsNarrow character := by
  obtain ⟨byte, -, rfl⟩ := List.mem_map.mp member
  rw [IsNarrow, UInt16.lt_iff_toNat_lt, UInt8.toNat_toUInt16]
  exact byte.toNat_lt

theorem toUInt16_toUInt8 {character : UInt16} (narrow : IsNarrow character) :
    character.toUInt8.toUInt16 = character := by
  rw [IsNarrow, UInt16.lt_iff_toNat_lt] at narrow
  apply UInt16.toNat_inj.mp
  rw [UInt8.toNat_toUInt16, UInt16.toNat_toUInt8]
  exact Nat.mod_eq_of_lt narrow

/-- Where every character has one byte and none is NUL, the buffer shows the
command line. -/
theorem cStr_cmdBuffer
    {line : WString}
    (narrow : ∀ character ∈ line, IsNarrow character)
    (clean : (0 : UInt16) ∉ line) :
    (cStr (cmdBuffer line)).map UInt8.toUInt16 = line := by
  have visible : ∀ byte ∈ line.map UInt16.toUInt8,
      decide (byte ≠ 0) = true := by
    intro byte member
    obtain ⟨character, characterMember, rfl⟩ := List.mem_map.mp member
    rw [decide_eq_true_eq]
    intro zero
    have same := toUInt16_toUInt8 (narrow character characterMember)
    rw [zero] at same
    subst same
    exact clean characterMember
  rw [cStr, cmdBuffer, List.takeWhile_append_of_pos visible, List.takeWhile_cons,
    if_neg (by simp), List.append_nil, List.map_map]
  have back := List.map_congr_left fun character member =>
    toUInt16_toUInt8 (narrow character member)
  exact back.trans (List.map_id' line)

/-- A character that is not narrow has no meaning of its own. -/
theorem ordinary_of_wide
    {character : UInt16}
    (isWide : ¬ IsNarrow character) :
    character ≠ windowsAlphabet.backslash ∧
      character ≠ windowsAlphabet.quote ∧
      windowsAlphabet.blank character = false := by
  have apart : ∀ other : UInt16, IsNarrow other → character ≠ other := by
    rintro other narrow rfl
    exact isWide narrow
  have notSpace := apart 0x20 (by unfold IsNarrow; decide)
  have notTab := apart 0x09 (by unfold IsNarrow; decide)
  refine ⟨apart backslash (by unfold IsNarrow; decide),
    apart quotationMark (by unfold IsNarrow; decide), ?_⟩
  simp [windowsAlphabet, notSpace, notTab]

/-- Only narrow characters can come back from the buffer. -/
theorem narrow_of_split
    {process arguments : WString}
    (recovered : splitArguments (launchedLine process arguments) =
      process :: splitArguments arguments) :
    ∀ character ∈ process ++ arguments, IsNarrow character := by
  intro character member
  by_contra isWide
  obtain ⟨notBackslash, notQuote, notBlank⟩ := ordinary_of_wide isWide
  have found : ∃ argument ∈ splitArguments (launchedLine process arguments),
      character ∈ argument := by
    rw [recovered]
    rcases List.mem_append.mp member with inProcess | inArguments
    · exact ⟨process, List.mem_cons_self, inProcess⟩
    · obtain ⟨argument, known, inside⟩ :=
        (CommandLine.mem_split notBackslash notQuote notBlank).mpr inArguments
      exact ⟨argument, List.mem_cons_of_mem process known, inside⟩
  have launched :=
    (CommandLine.mem_split notBackslash notQuote notBlank).mp found
  exact isWide (isNarrow_of_mem_launchedLine launched)

/-- Narrow characters without NUL reach Windows as they are. -/
theorem launchedLine_of_narrow
    {process arguments : WString}
    (narrow : ∀ character ∈ process ++ arguments, IsNarrow character)
    (processClean : 0 ∉ process)
    (argumentsClean : 0 ∉ arguments) :
    launchedLine process arguments = commandLine process arguments := by
  have origin : ∀ character ∈ commandLine process arguments,
      character ∈ process ∨ character ∈ arguments ∨
        character ∈ [backslash, quotationMark, 0x20] := by
    intro character member
    simp only [commandLine, List.mem_append, List.mem_singleton] at member
    rcases member with (escaped | space) | argument
    · rcases mem_escapeArgument escaped with own | slash | quote
      · exact .inl own
      · exact .inr (.inr (by simp [slash]))
      · exact .inr (.inr (by simp [quote]))
    · exact .inr (.inr (by simp [space]))
    · exact .inr (.inl argument)
  apply cStr_cmdBuffer
  · intro character member
    rcases origin character member with own | argument | special
    · exact narrow character (List.mem_append_left arguments own)
    · exact narrow character (List.mem_append_right process argument)
    · exact isNarrow_of_all (by decide) character special
  · intro member
    rcases origin 0 member with own | argument | special
    · exact processClean own
    · exact argumentsClean argument
    · have none : (0 : UInt16) ∉ [backslash, quotationMark, 0x20] := by decide
      exact none special

/-- The launched text splits into the executable and the configured arguments
exactly when there is an executable and every character has one byte. -/
theorem launched_line_iff
    {process arguments : WString}
    (processClean : 0 ∉ process)
    (argumentsClean : 0 ∉ arguments) :
    splitArguments (launchedLine process arguments) =
        process :: splitArguments arguments ↔
      process ≠ [] ∧
        ∀ character ∈ process ++ arguments, IsNarrow character := by
  constructor
  · intro recovered
    have narrow := narrow_of_split recovered
    refine ⟨?_, narrow⟩
    rintro rfl
    rw [launchedLine_of_narrow narrow processClean argumentsClean] at recovered
    have same : splitArguments (commandLine [] arguments) =
        splitArguments arguments :=
      CommandLine.split_blank (by decide) arguments
    rw [same] at recovered
    exact List.cons_ne_self _ _ recovered.symm
  · rintro ⟨nonempty, narrow⟩
    rw [launchedLine_of_narrow narrow processClean argumentsClean, commandLine,
      List.append_assoc, splitArguments,
      CommandLine.split_append (reads_escapeArgument nonempty)]
    · exact congrArg (process :: ·)
        (CommandLine.split_blank (by decide) arguments)
    · rintro character ⟨⟩
      decide

/-- A path with a blank, with two arguments. -/
theorem launched_line_iff_sample :
    splitArguments (launchedLine (wide "C:\\a b\\") (wide "-c \"x y\"")) =
      wide "C:\\a b\\" :: splitArguments (wide "-c \"x y\"") :=
  (launched_line_iff (by decide) (by decide)).mpr
    ⟨by decide, isNarrow_of_all (by decide)⟩

/-- The low byte of U+0122 is a quotation mark, which ends the quoting of a path
with a blank. -/
theorem wide_character_loses_quoting :
    splitArguments (launchedLine (wide "C:\\a\u0122 x\\p.exe") (wide "-c")) ≠
      wide "C:\\a\u0122 x\\p.exe" :: splitArguments (wide "-c") := by
  decide

end ProcessPool
end IisAsgiHandler
