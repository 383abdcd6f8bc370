import Mathlib.Data.List.Basic

/-!
# Splitting a command line

A command line is split into arguments at blanks outside of quotes.  Before a
quote, an even number of backslashes stands for half as many and the quote opens
or closes a quoted part; an odd number stands for half as many and a literal
quote.  Elsewhere a backslash is an ordinary character.
-/

namespace CommandLine

/-- The characters that have a meaning of their own. -/
structure Alphabet (α : Type*) where
  quote : α
  backslash : α
  blank : α → Bool
  quote_ne_backslash : quote ≠ backslash
  blank_quote : blank quote = false
  blank_backslash : blank backslash = false

/-- How far a command line has been read: the complete arguments, the current
one up to its last backslashes, and the number of these. -/
@[ext] structure Scanner (α : Type*) where
  arguments : List (List α) := []
  current : Option (List α) := none
  backslashes : Nat := 0
  quoted : Bool := false

variable {α : Type*} [DecidableEq α] (alphabet : Alphabet α)

namespace Scanner

/-- The current argument, with its last backslashes. -/
def text (scanner : Scanner α) : List α :=
  scanner.current.getD [] ++
    List.replicate scanner.backslashes alphabet.backslash

/-- Complete the current argument. -/
def close (scanner : Scanner α) : Scanner α :=
  match scanner.current with
  | none => scanner
  | some _ =>
      { scanner with
        arguments := scanner.arguments ++ [scanner.text alphabet]
        current := none
        backslashes := 0 }

/-- A quote after some backslashes. -/
def readQuote (scanner : Scanner α) : Scanner α :=
  let halved := scanner.current.getD [] ++
    List.replicate (scanner.backslashes / 2) alphabet.backslash
  if scanner.backslashes % 2 = 1 then
    { scanner with
      current := some (halved ++ [alphabet.quote])
      backslashes := 0 }
  else
    { scanner with
      current := some halved
      backslashes := 0
      quoted := !scanner.quoted }

/-- Read one character. -/
def step (scanner : Scanner α) (character : α) : Scanner α :=
  if character = alphabet.backslash then
    { scanner with
      current := some (scanner.current.getD [])
      backslashes := scanner.backslashes + 1 }
  else if character = alphabet.quote then scanner.readQuote alphabet
  else if alphabet.blank character = true ∧ scanner.quoted = false then
    scanner.close alphabet
  else
    { scanner with
      current := some (scanner.text alphabet ++ [character])
      backslashes := 0 }

/-- Read some characters. -/
def scan (scanner : Scanner α) (characters : List α) : Scanner α :=
  characters.foldl (step alphabet) scanner

end Scanner

/-- The arguments of a command line. -/
def split (line : List α) : List (List α) :=
  ((Scanner.scan alphabet {} line).close alphabet).arguments

namespace Scanner

variable {alphabet}

@[simp] theorem scan_nil (scanner : Scanner α) :
    scanner.scan alphabet [] = scanner := rfl

@[simp] theorem scan_cons
    (scanner : Scanner α) (character : α) (characters : List α) :
    scanner.scan alphabet (character :: characters) =
      (scanner.step alphabet character).scan alphabet characters := rfl

theorem scan_append (scanner : Scanner α) (characters later : List α) :
    scanner.scan alphabet (characters ++ later) =
      (scanner.scan alphabet characters).scan alphabet later :=
  List.foldl_append

theorem step_backslash (scanner : Scanner α) :
    scanner.step alphabet alphabet.backslash =
      { scanner with
        current := some (scanner.current.getD [])
        backslashes := scanner.backslashes + 1 } := by
  rw [step, if_pos rfl]

theorem step_quote (scanner : Scanner α) :
    scanner.step alphabet alphabet.quote = scanner.readQuote alphabet := by
  rw [step, if_neg alphabet.quote_ne_backslash, if_pos rfl]

theorem step_blank
    {scanner : Scanner α}
    {character : α}
    (blank : alphabet.blank character = true)
    (unquoted : scanner.quoted = false) :
    scanner.step alphabet character = scanner.close alphabet := by
  have notBackslash : character ≠ alphabet.backslash := by
    rintro rfl
    rw [alphabet.blank_backslash] at blank
    cases blank
  have notQuote : character ≠ alphabet.quote := by
    rintro rfl
    rw [alphabet.blank_quote] at blank
    cases blank
  rw [step, if_neg notBackslash, if_neg notQuote, if_pos ⟨blank, unquoted⟩]

theorem step_other
    {scanner : Scanner α}
    {character : α}
    (notBackslash : character ≠ alphabet.backslash)
    (notQuote : character ≠ alphabet.quote)
    (notSeparator : ¬ (alphabet.blank character = true ∧ scanner.quoted = false)) :
    scanner.step alphabet character =
      { scanner with
        current := some (scanner.text alphabet ++ [character])
        backslashes := 0 } := by
  rw [step, if_neg notBackslash, if_neg notQuote, if_neg notSeparator]

/-- Backslashes after the beginning of an argument are counted. -/
theorem scan_backslashes
    {scanner : Scanner α}
    {current : List α}
    (begun : scanner.current = some current)
    (count : Nat) :
    scanner.scan alphabet (List.replicate count alphabet.backslash) =
      { scanner with backslashes := scanner.backslashes + count } := by
  induction count generalizing scanner with
  | zero => rfl
  | succ count inductionHypothesis =>
      have kept : some (scanner.current.getD []) = some current := by
        rw [begun, Option.getD_some]
      rw [List.replicate_succ, scan_cons, step_backslash,
        inductionHypothesis kept, kept, begun, Nat.add_assoc,
        Nat.add_comm 1 count]

/-- Earlier arguments are kept in front. -/
theorem scan_arguments
    (before : List (List α))
    (scanner : Scanner α)
    (characters : List α) :
    ({ scanner with arguments := before ++ scanner.arguments }).scan alphabet
        characters =
      { scanner.scan alphabet characters with
        arguments := before ++ (scanner.scan alphabet characters).arguments } := by
  induction characters generalizing scanner with
  | nil => rfl
  | cons character characters inductionHypothesis =>
      have one :
          ({ scanner with arguments := before ++ scanner.arguments }).step
              alphabet character =
            { scanner.step alphabet character with
              arguments :=
                before ++ (scanner.step alphabet character).arguments } := by
        obtain ⟨arguments, current, backslashes, quoted⟩ := scanner
        simp only [step, readQuote, close, text]
        cases current <;> split_ifs <;> simp
      rw [scan_cons, one, inductionHypothesis, scan_cons]

omit [DecidableEq α] in
theorem arguments_close
    (before : List (List α))
    (scanner : Scanner α) :
    (({ scanner with arguments := before ++ scanner.arguments }).close
      alphabet).arguments =
        before ++ (scanner.close alphabet).arguments := by
  obtain ⟨arguments, current, backslashes, quoted⟩ := scanner
  cases current with
  | none => rfl
  | some current => exact List.append_assoc before arguments _

/-- Outside of quotes and away from blanks, characters stand for themselves. -/
theorem scan_plain
    (scanner : Scanner α)
    {characters : List α}
    (plain : ∀ character ∈ characters,
      character ≠ alphabet.quote ∧ alphabet.blank character = false) :
    (scanner.scan alphabet characters).arguments = scanner.arguments ∧
      (scanner.scan alphabet characters).quoted = scanner.quoted ∧
      (scanner.scan alphabet characters).text alphabet =
        scanner.text alphabet ++ characters := by
  induction characters generalizing scanner with
  | nil => exact ⟨rfl, rfl, (List.append_nil _).symm⟩
  | cons character characters inductionHypothesis =>
      obtain ⟨notQuote, notBlank⟩ := plain character List.mem_cons_self
      obtain ⟨arguments, quoted, textScanned⟩ := inductionHypothesis
        (scanner.step alphabet character)
        fun later member => plain later (List.mem_cons_of_mem character member)
      have one : (scanner.step alphabet character).arguments =
            scanner.arguments ∧
          (scanner.step alphabet character).quoted = scanner.quoted ∧
          (scanner.step alphabet character).text alphabet =
            scanner.text alphabet ++ [character] := by
        by_cases isBackslash : character = alphabet.backslash
        · rw [isBackslash, step_backslash]
          exact ⟨rfl, rfl, by simp [text, List.replicate_succ']⟩
        · rw [step_other isBackslash notQuote (by simp [notBlank])]
          exact ⟨rfl, rfl, by simp [text]⟩
      obtain ⟨oneArguments, oneQuoted, oneText⟩ := one
      rw [scan_cons]
      refine ⟨arguments.trans oneArguments, quoted.trans oneQuoted, ?_⟩
      rw [textScanned, oneText, List.append_assoc, List.singleton_append]

/-- After a character that is read as itself, an argument has begun. -/
theorem isSome_scan_plain
    (scanner : Scanner α)
    {characters : List α}
    (nonempty : characters ≠ [])
    (plain : ∀ character ∈ characters,
      character ≠ alphabet.quote ∧ alphabet.blank character = false) :
    (scanner.scan alphabet characters).current.isSome = true := by
  obtain ⟨initial, last, rfl⟩ :=
    (List.eq_nil_or_concat' characters).resolve_left nonempty
  obtain ⟨notQuote, notBlank⟩ := plain last (by simp)
  rw [scan_append, scan_cons, scan_nil]
  by_cases isBackslash : last = alphabet.backslash
  · rw [isBackslash, step_backslash]
    rfl
  · rw [step_other isBackslash notQuote (by simp [notBlank])]
    rfl

end Scanner

/-! ## Arguments in front of a command line -/

variable {alphabet}

/-- Some text is read as the beginning of one argument, outside of quotes. -/
structure Reads (alphabet : Alphabet α) (characters argument : List α) :
    Prop where
  arguments : (Scanner.scan alphabet {} characters).arguments = []
  unquoted : (Scanner.scan alphabet {} characters).quoted = false
  begun : (Scanner.scan alphabet {} characters).current.isSome = true
  text : (Scanner.scan alphabet {} characters).text alphabet = argument

/-- Blanks in front of a command line do not matter. -/
theorem split_blank
    {character : α}
    (blank : alphabet.blank character = true)
    (line : List α) :
    split alphabet (character :: line) = split alphabet line := by
  rw [split, Scanner.scan_cons, Scanner.step_blank blank rfl]
  rfl

/-- Text that is read as one argument, followed by nothing or by a blank. -/
theorem split_append
    {characters argument line : List α}
    (reads : Reads alphabet characters argument)
    (apart : ∀ character ∈ line.head?, alphabet.blank character = true) :
    split alphabet (characters ++ line) = argument :: split alphabet line := by
  obtain ⟨arguments, unquoted, begun, text⟩ := reads
  have closed : (Scanner.scan alphabet {} characters).close alphabet =
      { arguments := [argument] } := by
    obtain ⟨current, isCurrent⟩ := Option.isSome_iff_exists.mp begun
    rw [Scanner.close, isCurrent]
    simp only [arguments, text, unquoted, List.nil_append]
  cases line with
  | nil =>
      rw [List.append_nil, split, closed]
      rfl
  | cons character line =>
      have blank := apart character rfl
      rw [split_blank blank, split, Scanner.scan_append, Scanner.scan_cons,
        Scanner.step_blank blank unquoted, closed, split]
      exact (congrArg (fun scanner => (scanner.close alphabet).arguments)
        (Scanner.scan_arguments [argument] {} line)).trans
        (Scanner.arguments_close [argument] _)

/-- Arguments that are written one by one, with a blank between two of them. -/
theorem split_intercalate
    {character : α}
    (blank : alphabet.blank character = true)
    {write : List α → List α}
    {arguments : List (List α)}
    (reads : ∀ argument ∈ arguments, Reads alphabet (write argument) argument) :
    split alphabet ([character].intercalate (arguments.map write)) =
      arguments := by
  induction arguments with
  | nil => rfl
  | cons argument arguments inductionHypothesis =>
      have first := reads argument List.mem_cons_self
      have rest := inductionHypothesis fun later member =>
        reads later (List.mem_cons_of_mem argument member)
      cases arguments with
      | nil =>
          have alone : split alphabet (write argument ++ []) =
              argument :: split alphabet [] := split_append first (by simp)
          rw [List.append_nil] at alone
          rw [List.map_singleton, List.intercalate_singleton, alone]
          rfl
      | cons next arguments =>
          rw [List.map_cons, List.map_cons, List.intercalate_cons_cons,
            List.append_assoc, List.singleton_append, split_append first]
          · rw [split_blank blank, ← List.map_cons, rest]
          · rintro separator ⟨⟩
            exact blank

/-! ## Quoted text -/

namespace Scanner

/-- The state inside a quoted part of the first argument. -/
def inQuotes (current : List α) : Scanner α where
  current := some current
  quoted := true

/-- In quotes, backslashes before an ordinary character are literal. -/
theorem scan_inQuotes_other
    {character : α}
    (notBackslash : character ≠ alphabet.backslash)
    (notQuote : character ≠ alphabet.quote)
    (current : List α)
    (count : Nat) :
    (inQuotes current).scan alphabet
        (List.replicate count alphabet.backslash ++ [character]) =
      inQuotes (current ++ List.replicate count alphabet.backslash ++
        [character]) := by
  rw [scan_append, scan_backslashes rfl, scan_cons, scan_nil,
    step_other notBackslash notQuote (by simp [inQuotes])]
  simp [inQuotes, text]

/-- In quotes, an odd number of backslashes keeps a quote from closing. -/
theorem scan_inQuotes_quote (current : List α) (count : Nat) :
    (inQuotes current).scan alphabet
        (List.replicate (count * 2 + 1) alphabet.backslash ++
          [alphabet.quote]) =
      inQuotes (current ++ List.replicate count alphabet.backslash ++
        [alphabet.quote]) := by
  have odd : (count * 2 + 1) % 2 = 1 := by omega
  have half : (count * 2 + 1) / 2 = count := by omega
  rw [scan_append, scan_backslashes rfl, scan_cons, scan_nil, step_quote,
    readQuote]
  simp [inQuotes, odd, half]

/-- An even number of backslashes lets the quote close. -/
theorem scan_inQuotes_close (current : List α) (count : Nat) :
    (inQuotes current).scan alphabet
        (List.replicate (count * 2) alphabet.backslash ++ [alphabet.quote]) =
      { current := some (current ++
          List.replicate count alphabet.backslash) } := by
  have half : count * 2 / 2 = count := by omega
  rw [scan_append, scan_backslashes rfl, scan_cons, scan_nil, step_quote,
    readQuote]
  simp [inQuotes, half]

end Scanner

/-! ## The characters of the arguments -/

namespace Scanner

/-- All characters kept so far. -/
def kept (alphabet : Alphabet α) (scanner : Scanner α) : List α :=
  scanner.arguments.flatten ++ scanner.text alphabet

omit [DecidableEq α] in
theorem mem_kept {scanner : Scanner α} {character : α} :
    character ∈ scanner.kept alphabet ↔
      (∃ argument ∈ scanner.arguments, character ∈ argument) ∨
      character ∈ scanner.current.getD [] ∨
      scanner.backslashes ≠ 0 ∧ character = alphabet.backslash := by
  simp only [kept, text, List.mem_append, List.mem_flatten, List.mem_replicate]

omit [DecidableEq α] in
theorem current_close (scanner : Scanner α) :
    (scanner.close alphabet).current = none := by
  rw [close]
  split
  next isNone => exact isNone
  next => rfl

omit [DecidableEq α] in
/-- Completing an argument loses at most backslashes. -/
theorem mem_kept_close
    {scanner : Scanner α}
    {character : α}
    (notBackslash : character ≠ alphabet.backslash) :
    character ∈ (scanner.close alphabet).kept alphabet ↔
      character ∈ scanner.kept alphabet := by
  obtain ⟨arguments, current, backslashes, quoted⟩ := scanner
  cases current with
  | none => rfl
  | some current =>
      simp only [close, mem_kept, text, List.mem_append, List.mem_singleton,
        notBackslash, and_false, or_false,
        Option.getD_some, Option.getD_none, List.not_mem_nil]
      constructor
      · rintro ⟨argument, early | rfl, member⟩
        · exact .inl ⟨argument, early, member⟩
        · simp only [List.mem_append, List.mem_replicate, notBackslash,
            and_false, or_false] at member
          exact .inr member
      · rintro (⟨argument, early, member⟩ | member)
        · exact ⟨argument, .inl early, member⟩
        · exact ⟨_, .inr rfl, List.mem_append_left _ member⟩

/-- A step keeps the characters other than backslashes, and adds at most the one
that is read; it adds it unless it is a quote or a blank. -/
theorem mem_kept_step
    {character : α}
    (scanner : Scanner α)
    (read : α)
    (notBackslash : character ≠ alphabet.backslash) :
    (character ∈ scanner.kept alphabet →
      character ∈ (scanner.step alphabet read).kept alphabet) ∧
    (character ∈ (scanner.step alphabet read).kept alphabet →
      character ∈ scanner.kept alphabet ∨ character = read) ∧
    (character = read → character ≠ alphabet.quote →
      alphabet.blank character = false →
      character ∈ (scanner.step alphabet read).kept alphabet) := by
  by_cases isBackslash : read = alphabet.backslash
  · subst isBackslash
    rw [step_backslash]
    simp only [mem_kept, notBackslash, and_false, or_false, Option.getD_some,
      false_implies, and_true]
    exact ⟨id, id⟩
  · by_cases isQuote : read = alphabet.quote
    · subst isQuote
      rw [step_quote, readQuote]
      split
      · simp only [mem_kept, List.mem_append, List.mem_replicate,
          List.mem_singleton, notBackslash, and_false, or_false,
          Option.getD_some]
        refine ⟨?_, ?_, fun same notQuote _ => absurd same notQuote⟩
        · rintro (early | current)
          · exact .inl early
          · exact .inr (.inl current)
        · rintro (early | current | same)
          · exact .inl (.inl early)
          · exact .inl (.inr current)
          · exact .inr same
      · simp only [mem_kept, List.mem_append, List.mem_replicate, notBackslash,
          and_false, or_false, Option.getD_some]
        exact ⟨id, .inl, fun same notQuote _ => absurd same notQuote⟩
    · by_cases separates : alphabet.blank read = true ∧ scanner.quoted = false
      · rw [step_blank separates.1 separates.2, mem_kept_close notBackslash]
        refine ⟨id, .inl, ?_⟩
        rintro rfl _ notBlank
        rw [separates.1] at notBlank
        cases notBlank
      · rw [step_other isBackslash isQuote separates]
        simp only [mem_kept, text, List.mem_append, List.mem_singleton,
          List.mem_replicate, notBackslash, and_false, or_false,
          Option.getD_some]
        refine ⟨?_, ?_, fun same _ _ => .inr (.inr same)⟩
        · rintro (early | current)
          · exact .inl early
          · exact .inr (.inl current)
        · rintro (early | current | same)
          · exact .inl (.inl early)
          · exact .inl (.inr current)
          · exact .inr same

/-- Whatever is kept of some text was kept before or comes from the text. -/
theorem mem_kept_scan
    {scanner : Scanner α}
    {characters : List α}
    {character : α}
    (notBackslash : character ≠ alphabet.backslash)
    (member : character ∈ (scanner.scan alphabet characters).kept alphabet) :
    character ∈ scanner.kept alphabet ∨ character ∈ characters := by
  induction characters generalizing scanner with
  | nil => exact .inl member
  | cons read characters inductionHypothesis =>
      rcases inductionHypothesis member with earlier | later
      · rcases (mem_kept_step _ read notBackslash).2.1 earlier with before | same
        · exact .inl before
        · exact .inr (same ▸ List.mem_cons_self)
      · exact .inr (List.mem_cons_of_mem read later)

/-- An ordinary character of some text is kept. -/
theorem mem_kept_of_mem
    {characters : List α}
    {character : α}
    (notBackslash : character ≠ alphabet.backslash)
    (notQuote : character ≠ alphabet.quote)
    (notBlank : alphabet.blank character = false)
    (scanner : Scanner α)
    (member : character ∈ scanner.kept alphabet ∨ character ∈ characters) :
    character ∈ (scanner.scan alphabet characters).kept alphabet := by
  induction characters generalizing scanner with
  | nil => exact member.resolve_right List.not_mem_nil
  | cons read characters inductionHypothesis =>
      obtain ⟨keeps, -, adds⟩ := mem_kept_step scanner read notBackslash
      apply inductionHypothesis
      rcases member with before | member
      · exact .inl (keeps before)
      · rcases List.mem_cons.mp member with same | later
        · exact .inl (adds same notQuote notBlank)
        · exact .inr later

end Scanner

/-- The ordinary characters of a command line are those of its arguments. -/
theorem mem_split
    {line : List α}
    {character : α}
    (notBackslash : character ≠ alphabet.backslash)
    (notQuote : character ≠ alphabet.quote)
    (notBlank : alphabet.blank character = false) :
    (∃ argument ∈ split alphabet line, character ∈ argument) ↔
      character ∈ line := by
  have whole : (∃ argument ∈ split alphabet line, character ∈ argument) ↔
      character ∈ (Scanner.scan alphabet {} line).kept alphabet := by
    rw [← Scanner.mem_kept_close notBackslash, Scanner.mem_kept,
      Scanner.current_close, split]
    simp only [Option.getD_none, List.not_mem_nil, notBackslash, and_false,
      or_false]
  rw [whole]
  constructor
  · intro member
    exact (Scanner.mem_kept_scan notBackslash member).resolve_left (by
      simp [Scanner.mem_kept])
  · intro member
    exact Scanner.mem_kept_of_mem notBackslash notQuote notBlank {} (.inr member)

end CommandLine
