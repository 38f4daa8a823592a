import Templating.Code.Literal
import Templating.Proofs.Json.Text

/-!
# Literals are read back

A reader of literals that stands for the language of the generated code, and
the proof that it reads the literal of a text as this text and stops right
behind it, whatever follows.

* A quoted literal ends at the first quote without a backslash.
* A raw literal ends at the first quote with as many `#` behind it as it has
  in front.

Neither may hold a carriage return.  The two ways to end are why no text can
leave its literal: in a quoted literal every quote of the text has a backslash,
and in a raw one no quote of the text has enough `#` behind it.
-/

namespace Templating.Code.Literal

/-! ## Escapes -/

/-- The character that an escape of one letter stands for. -/
def letterEscape? : Char → Option Char
  | '0' => some '\x00'
  | 't' => some '\t'
  | 'r' => some '\r'
  | 'n' => some '\n'
  | '"' => some '"'
  | '\x27' => some '\x27'
  | '\\' => some '\\'
  | _ => none

/-- The character with a number.  Surrogates have none, and neither do numbers
beyond the last character. -/
def charOf? (number : Nat) : Option Char :=
  if (Char.ofNat number).toNat = number then some (Char.ofNat number) else none

/-- The number that hexadecimal digits write. -/
def hexNumber? (digits : List Char) : Option Nat :=
  digits.foldlM
    (fun number digit => (Json.hexValue? digit).map (16 * number + ·)) 0

/-- The character of an escape of two digits; it has to be in ASCII. -/
def byteEscape? (high low : Char) : Option Char :=
  ((hexNumber? [high, low]).filter (· < 0x80)).bind charOf?

/-- The character of an escape of one to six digits, with underscores allowed
behind the first. -/
def numberEscape? (digits : List Char) : Option Char :=
  let counted := digits.filter (· ≠ '_')
  if digits.head? = some '_' || counted.isEmpty || 6 < counted.length then
    none
  else
    (hexNumber? counted).bind charOf?

/-- An escape behind its backslash: the characters that it stands for and what
follows it.  A newline stands for nothing, and so do the blanks behind it. -/
def readEscape : List Char → Option (List Char × List Char)
  | [] => none
  | '\n' :: rest => some ([], rest.dropWhile [' ', '\n', '\t', '\r'].contains)
  | 'x' :: high :: low :: rest =>
      (byteEscape? high low).map fun character => ([character], rest)
  | 'u' :: '\x7b' :: rest =>
      let digits := rest.takeWhile (· ≠ '\x7d')
      if '\x7d' ∈ rest then
        (numberEscape? digits).map fun character =>
          ([character], rest.drop (digits.length + 1))
      else
        none
  | letter :: rest =>
      (letterEscape? letter).map fun character => ([character], rest)

theorem length_readEscape {characters denoted rest : List Char}
    (escape : readEscape characters = some (denoted, rest)) :
    rest.length < characters.length := by
  unfold readEscape at escape
  split at escape
  · cases escape
  · rename_i behind
    cases escape
    have shorter :=
      (List.dropWhile_sublist (l := behind)
        ([' ', '\n', '\t', '\r'].contains)).length_le
    rw [List.length_cons]
    omega
  · rcases Option.map_eq_some_iff.mp escape with ⟨character, _, same⟩
    cases same
    simp only [List.length_cons]
    omega
  · split at escape
    · rcases Option.map_eq_some_iff.mp escape with ⟨character, _, same⟩
      cases same
      simp only [List.length_cons, List.length_drop]
      omega
    · cases escape
  · rcases Option.map_eq_some_iff.mp escape with ⟨character, _, same⟩
    cases same
    rw [List.length_cons]
    exact Nat.lt_succ_self _

/-! ## The reader -/

/-- The text of a quoted literal behind its first quote, and what follows the
last one. -/
def readQuoted (characters : List Char) : Option (List Char × List Char) :=
  match characters with
  | [] => none
  | '"' :: rest => some ([], rest)
  | '\r' :: _ => none
  | '\\' :: rest =>
      match _escape : readEscape rest with
      | none => none
      | some (denoted, after) =>
          (readQuoted after).map fun (text, behind) => (denoted ++ text, behind)
  | character :: rest =>
      (readQuoted rest).map fun (text, behind) => (character :: text, behind)
termination_by characters.length
decreasing_by
  · have shorter := length_readEscape _escape
    rw [List.length_cons]
    omega
  · exact Nat.lt_succ_self _

/-- The text of a raw literal behind its first quote, and what follows the last
`#`. -/
def readRaw (hashes : Nat) : List Char → Option (List Char × List Char)
  | [] => none
  | '\r' :: _ => none
  | '"' :: rest =>
      if (List.replicate hashes '#').isPrefixOf rest then
        some ([], rest.drop hashes)
      else
        (readRaw hashes rest).map fun (text, behind) => ('"' :: text, behind)
  | character :: rest =>
      (readRaw hashes rest).map fun (text, behind) => (character :: text, behind)

/-- The two kinds of literals. -/
inductive Kind where
  | quoted
  /-- Raw, with some number of `#` on each side. -/
  | raw (hashes : Nat)
  deriving DecidableEq, Repr

/-- What is read of a literal. -/
structure Reading where
  kind : Kind
  /-- What the literal evaluates to. -/
  text : List Char
  /-- What follows the literal. -/
  rest : List Char
  deriving DecidableEq, Repr

/-- Reads one literal. -/
def read? : List Char → Option Reading
  | '"' :: rest =>
      (readQuoted rest).map fun (text, behind) => ⟨.quoted, text, behind⟩
  | 'r' :: rest =>
      let hashes := (rest.takeWhile (· = '#')).length
      match rest.drop hashes with
      | '"' :: inside =>
          if hashes ≤ 255 then
            (readRaw hashes inside).map fun (text, behind) =>
              ⟨.raw hashes, text, behind⟩
          else
            none
      | _ => none
  | _ => none

/-! ## Characters of a quoted literal -/

/-- The characters that do not stand for themselves in a quoted literal. -/
def special : List Char := ['"', '\r', '\\']

theorem mem_special {character : Char} :
    character ∈ special ↔
      character = '"' ∨ character = '\r' ∨ character = '\\' := by
  simp [special]

theorem readQuoted_escape {rest denoted after : List Char}
    (escape : readEscape rest = some (denoted, after)) :
    readQuoted ('\\' :: rest) =
      (readQuoted after).map fun (text, behind) => (denoted ++ text, behind) := by
  rw [readQuoted]
  split
  · rename_i failed
    rw [escape] at failed
    cases failed
  · rename_i read
    rw [escape] at read
    cases read
    rfl

theorem readQuoted_plain {character : Char} {rest : List Char}
    (isPlain : character ∉ special) :
    readQuoted (character :: rest) =
      (readQuoted rest).map fun (text, behind) =>
        (character :: text, behind) := by
  rw [readQuoted]
  all_goals
    rintro rfl
    exact isPlain (by decide)

/-- The ways to write a character inside a quoted literal. -/
inductive Writes (character : Char) : List Char → Prop where
  | itself (isPlain : character ∉ special) :
      Writes character [character]
  | letter {letter : Char} (isEscape : letterEscape? letter = some character) :
      Writes character ['\\', letter]
  | number :
      Writes character
        ('\\' :: 'u' :: '\x7b' :: Nat.toDigits 16 character.toNat ++ ['\x7d'])

theorem charOf?_toNat (character : Char) :
    charOf? character.toNat = some character := by
  rw [charOf?, Char.ofNat_toNat, if_pos rfl]

theorem hexNumber?_toDigits (number : Nat) :
    hexNumber? (Nat.toDigits 16 number) = some number := by
  induction number using Nat.strongRecOn with
  | ind number inductionHypothesis =>
      by_cases small : number < 16
      · rw [Nat.toDigits_of_lt_base small]
        simp [hexNumber?, Json.hexValue?_digitChar small]
      · have before := inductionHypothesis (number / 16) (by omega)
        have last : number % 16 < 16 := Nat.mod_lt number (by omega)
        rw [hexNumber?] at before
        rw [Nat.toDigits_of_base_le (by omega) (by omega), hexNumber?,
          List.foldlM_append, before]
        simp [Json.hexValue?_digitChar last]
        omega

theorem mem_toDigits {digit : Char} (number : Nat)
    (member : digit ∈ Nat.toDigits 16 number) :
    ∃ value < 16, digit = Nat.digitChar value := by
  induction number using Nat.strongRecOn with
  | ind number inductionHypothesis =>
      by_cases small : number < 16
      · rw [Nat.toDigits_of_lt_base small, List.mem_singleton] at member
        exact ⟨number, small, member⟩
      · rw [Nat.toDigits_of_base_le (by omega) (by omega), List.mem_append,
          List.mem_singleton] at member
        rcases member with earlier | last
        · exact inductionHypothesis (number / 16) (by omega) earlier
        · exact ⟨number % 16, Nat.mod_lt number (by omega), last⟩

/-- No digit is a character that the reader treats in a special way. -/
theorem ne_of_mem_toDigits {mark : Char} (isMark : mark ∈ ['_', '\x7d', '\r'])
    {number : Nat} {digit : Char} (member : digit ∈ Nat.toDigits 16 number) :
    digit ≠ mark := by
  rcases mem_toDigits number member with ⟨value, small, rfl⟩
  clear member
  rintro rfl
  revert value
  decide

theorem numberEscape?_toDigits (character : Char) :
    numberEscape? (Nat.toDigits 16 character.toNat) = some character := by
  have counted : (Nat.toDigits 16 character.toNat).filter (· ≠ '_') =
      Nat.toDigits 16 character.toNat := by
    rw [List.filter_eq_self]
    intro digit member
    exact decide_eq_true (ne_of_mem_toDigits (by decide) member)
  have noHead : (Nat.toDigits 16 character.toNat).head? ≠ some '_' := by
    intro isHead
    exact ne_of_mem_toDigits (by decide) (List.mem_of_mem_head? isHead) rfl
  have nonempty : (Nat.toDigits 16 character.toNat).isEmpty = false := by
    simp [Nat.toDigits_ne_nil]
  have short : ¬6 < (Nat.toDigits 16 character.toNat).length := by
    rw [Nat.not_lt, Nat.length_toDigits_le_iff (by omega) (by omega)]
    have bound : character.val.toNat < 0xd800 ∨
        0xdfff < character.val.toNat ∧ character.val.toNat < 0x110000 :=
      character.valid
    show character.val.toNat < 16777216
    omega
  simp only [numberEscape?, counted]
  rw [if_neg (by simp [noHead, nonempty, short]), hexNumber?_toDigits,
    Option.bind_some, charOf?_toNat]

theorem readEscape_number (character : Char) (rest : List Char) :
    readEscape
        ('u' :: '\x7b' :: (Nat.toDigits 16 character.toNat ++ '\x7d' :: rest)) =
      some ([character], rest) := by
  have digits :
      (Nat.toDigits 16 character.toNat ++ '\x7d' :: rest).takeWhile
          (· ≠ '\x7d') =
        Nat.toDigits 16 character.toNat := by
    rw [List.takeWhile_append_of_pos]
    · simp
    · intro digit member
      exact decide_eq_true (ne_of_mem_toDigits (by decide) member)
  rw [readEscape]
  simp only [digits]
  rw [if_pos (by simp), numberEscape?_toDigits, Option.map_some,
    List.drop_length_add_append, List.drop_succ_cons, List.drop_zero]

theorem readEscape_letter {letter character : Char}
    (isEscape : letterEscape? letter = some character) (rest : List Char) :
    readEscape (letter :: rest) = some ([character], rest) := by
  have noOther : ∀ other ∈ ['\n', 'x', 'u'], letter ≠ other := by
    rintro other member rfl
    simp only [List.mem_cons, List.not_mem_nil, or_false] at member
    rcases member with rfl | rfl | rfl <;> cases isEscape
  rw [readEscape]
  · rw [isEscape, Option.map_some]
  · exact noOther '\n' (by decide)
  · intro _ _ _ same
    exact (noOther 'x' (by decide) same).elim
  · intro _ same
    exact (noOther 'u' (by decide) same).elim

theorem Writes.read {character : Char} {written : List Char}
    (writes : Writes character written) (rest : List Char) :
    readQuoted (written ++ rest) =
      (readQuoted rest).map fun (text, behind) =>
        (character :: text, behind) := by
  cases writes with
  | itself isPlain => exact readQuoted_plain isPlain
  | letter isEscape => exact readQuoted_escape (readEscape_letter isEscape rest)
  | number =>
      simp only [List.cons_append, List.append_assoc, List.nil_append]
      exact readQuoted_escape (readEscape_number character rest)

theorem Writes.noReturn {character : Char} {written : List Char}
    (writes : Writes character written) : '\r' ∉ written := by
  cases writes with
  | itself isPlain =>
      intro member
      rw [List.mem_singleton] at member
      subst member
      exact isPlain (by decide)
  | letter isEscape =>
      intro member
      rw [List.mem_cons, List.mem_singleton] at member
      rcases member with same | rfl
      · cases same
      · cases isEscape
  | number =>
      have noDigit : '\r' ∉ Nat.toDigits 16 character.toNat := by
        intro member
        exact ne_of_mem_toDigits (by decide) member rfl
      simpa using noDigit

theorem writes_escapedChar (character : Char) :
    Writes character (escapedChar character) := by
  unfold escapedChar
  split
  case h_7 _ noReturn _ noQuote noBackslash =>
    split
    · exact .number
    · apply Writes.itself
      intro isSpecial
      rcases mem_special.mp isSpecial with same | same | same
      · exact noQuote same
      · exact noReturn same
      · exact noBackslash same
  all_goals exact .letter rfl

/-- Text that is written in any of the ways is read back. -/
theorem readQuoted_flatMap {write : Char → List Char} (text rest : List Char)
    (writes : ∀ character ∈ text, Writes character (write character)) :
    readQuoted (text.flatMap write ++ '"' :: rest) = some (text, rest) := by
  induction text with
  | nil =>
      show readQuoted ('"' :: rest) = _
      rw [readQuoted]
  | cons character text inductionHypothesis =>
      have others := inductionHypothesis fun other member =>
        writes other (List.mem_cons_of_mem _ member)
      rw [List.flatMap_cons, List.append_assoc,
        (writes character List.mem_cons_self).read, others]
      rfl

/-! ## The end of a raw literal -/

/-- A text that starts with too few `#` does not end the literal, not even
together with the `#` behind the last quote: that quote is in between. -/
theorem noEarlyEnd (text rest : List Char) {hashes : Nat}
    (short : leadingHashes text < hashes) :
    (List.replicate hashes '#').isPrefixOf (text ++ '"' :: rest) = false := by
  induction text generalizing hashes with
  | nil =>
      rcases hashes with _ | hashes
      · cases short
      · rfl
  | cons first text inductionHypothesis =>
      rcases hashes with _ | hashes
      · cases short
      rw [List.replicate_succ, List.cons_append, List.isPrefixOf]
      by_cases isHash : first = '#'
      · subst isHash
        have fewer : leadingHashes text < hashes := by
          simpa [leadingHashes] using short
        rw [inductionHypothesis fewer, Bool.and_false]
      · have differs : ('#' == first) = false := beq_false_of_ne (Ne.symm isHash)
        rw [differs, Bool.false_and]

theorem readRaw_text {hashes : Nat} (text rest : List Char)
    (noReturn : '\r' ∉ text) (short : longestHashRun text < hashes) :
    readRaw hashes (text ++ '"' :: (List.replicate hashes '#' ++ rest)) =
      some (text, rest) := by
  induction text with
  | nil =>
      rw [List.nil_append, readRaw,
        if_pos (List.isPrefixOf_iff_prefix.mpr (List.prefix_append _ _)),
        List.drop_left' List.length_replicate]
  | cons first text inductionHypothesis =>
      rw [List.mem_cons, not_or] at noReturn
      by_cases isQuote : first = '"'
      · subst isQuote
        rw [longestHashRun, Nat.max_lt] at short
        have goesOn := noEarlyEnd text (List.replicate hashes '#' ++ rest) short.1
        rw [List.cons_append, readRaw, if_neg (Bool.eq_false_iff.mp goesOn),
          inductionHypothesis noReturn.2 short.2]
        rfl
      · rw [longestHashRun] at short
        · rw [List.cons_append, readRaw, inductionHypothesis noReturn.2 short]
          · rfl
          · exact Ne.symm noReturn.1
          · exact isQuote
        · exact isQuote

/-! ## The three kinds of literals -/

theorem read?_plain (text rest : List Char) (noReturn : '\r' ∉ text)
    (noQuote : '"' ∉ text) (noBackslash : '\\' ∉ text) :
    read? (plain text ++ rest) = some ⟨.quoted, text, rest⟩ := by
  have isPlain : ∀ character ∈ text, Writes character [character] := by
    intro character member
    apply Writes.itself
    intro isSpecial
    rcases mem_special.mp isSpecial with rfl | rfl | rfl
    · exact noQuote member
    · exact noReturn member
    · exact noBackslash member
  have whole := readQuoted_flatMap text rest isPlain
  rw [List.flatMap_singleton'] at whole
  simp only [plain, List.cons_append, List.append_assoc, List.nil_append, read?,
    whole]
  rfl

theorem read?_escaped (text rest : List Char) :
    read? (escaped text ++ rest) = some ⟨.quoted, text, rest⟩ := by
  have whole := readQuoted_flatMap text rest fun character _ =>
    writes_escapedChar character
  simp only [escaped, List.cons_append, List.append_assoc, List.nil_append,
    read?, whole]
  rfl

theorem read?_raw {hashes : Nat} (text rest : List Char)
    (noReturn : '\r' ∉ text) (short : longestHashRun text < hashes)
    (few : hashes ≤ 255) :
    read? (raw hashes text ++ rest) = some ⟨.raw hashes, text, rest⟩ := by
  have counted (inside : List Char) :
      ((List.replicate hashes '#' ++ '"' :: inside).takeWhile
        (· = '#')).length = hashes := by
    rw [List.takeWhile_append_of_pos]
    · simp
    · simp
  have inside (inside : List Char) :
      (List.replicate hashes '#' ++ '"' :: inside).drop hashes =
        '"' :: inside :=
    List.drop_left' List.length_replicate
  simp only [raw, plain, List.cons_append, List.append_assoc, List.nil_append,
    read?, counted, inside, if_pos few, readRaw_text text rest noReturn short]
  rfl

theorem noReturn_escaped (text : List Char) : '\r' ∉ escaped text := by
  intro member
  simp only [escaped, List.cons_append, List.mem_cons, List.mem_append,
    List.mem_flatMap, List.not_mem_nil, or_false] at member
  rcases member with same | ⟨character, _, inside⟩ | same
  · cases same
  · exact (writes_escapedChar character).noReturn inside
  · cases same

theorem noReturn_plain {text : List Char} (noReturn : '\r' ∉ text) :
    '\r' ∉ plain text := by
  simpa [plain] using noReturn

theorem noReturn_raw {text : List Char} (noReturn : '\r' ∉ text)
    (hashes : Nat) : '\r' ∉ raw hashes text := by
  simpa [raw, List.mem_replicate] using noReturn_plain noReturn

/-- A quoted literal, or a raw one with at least one `#` and not more than a raw
literal may have. -/
def Kind.IsWithin : Kind → Prop
  | .quoted => True
  | .raw hashes => 1 ≤ hashes ∧ hashes ≤ 255

theorem read?_literalChars (text rest : List Char) :
    ∃ kind : Kind, kind.IsWithin ∧ '\r' ∉ literalChars text ∧
      read? (literalChars text ++ rest) = some ⟨kind, text, rest⟩ := by
  unfold literalChars
  split
  · exact ⟨.quoted, trivial, noReturn_escaped text, read?_escaped text rest⟩
  rename_i noReturn
  rw [List.contains_iff_mem] at noReturn
  split
  · rename_i isPlain
    simp only [Bool.and_eq_true, Bool.not_eq_true', List.contains_eq_mem,
      decide_eq_false_iff_not] at isPlain
    exact ⟨.quoted, trivial, noReturn_plain noReturn,
      read?_plain text rest noReturn isPlain.1 isPlain.2⟩
  split
  · exact ⟨.quoted, trivial, noReturn_escaped text, read?_escaped text rest⟩
  · rename_i short
    have few : longestHashRun text + 1 ≤ 255 := Nat.not_le.mp short
    exact ⟨.raw _, ⟨Nat.le_add_left 1 _, few⟩, noReturn_raw noReturn _,
      read?_raw text rest noReturn (Nat.lt_succ_self _) few⟩

/-! ## What a reader leaves -/

theorem length_readQuoted {characters text rest : List Char}
    (read : readQuoted characters = some (text, rest)) :
    rest.length < characters.length := by
  induction characters using readQuoted.induct generalizing text with
  | case1 =>
      rw [readQuoted] at read
      cases read
  | case2 behind =>
      rw [readQuoted] at read
      cases read
      exact Nat.lt_succ_self _
  | case3 behind =>
      rw [readQuoted] at read
      cases read
  | case4 behind failed =>
      rw [readQuoted, failed] at read
      cases read
  | case5 behind denoted after escape inductionHypothesis =>
      rw [readQuoted_escape escape] at read
      rcases Option.map_eq_some_iff.mp read with ⟨⟨inner, last⟩, isRead, same⟩
      cases same
      have shorter := length_readEscape escape
      have later := inductionHypothesis isRead
      rw [List.length_cons]
      omega
  | case6 character behind noQuote noReturn noBackslash inductionHypothesis =>
      rw [readQuoted_plain] at read
      · rcases Option.map_eq_some_iff.mp read with ⟨⟨inner, last⟩, isRead, same⟩
        cases same
        exact Nat.lt_succ_of_lt (inductionHypothesis isRead)
      · intro isSpecial
        rcases mem_special.mp isSpecial with same | same | same
        · exact noQuote same
        · exact noReturn same
        · exact noBackslash same

theorem length_readRaw {hashes : Nat} {characters text rest : List Char}
    (read : readRaw hashes characters = some (text, rest)) :
    rest.length < characters.length := by
  induction characters using readRaw.induct hashes generalizing text with
  | case1 => cases read
  | case2 => cases read
  | case3 behind closes =>
      rw [readRaw, if_pos closes] at read
      cases read
      rw [List.length_drop, List.length_cons]
      omega
  | case4 behind opens inductionHypothesis =>
      rw [readRaw, if_neg opens] at read
      rcases Option.map_eq_some_iff.mp read with ⟨⟨inner, last⟩, isRead, same⟩
      cases same
      exact Nat.lt_succ_of_lt (inductionHypothesis isRead)
  | case5 character behind noReturn noQuote inductionHypothesis =>
      rw [readRaw] at read
      · rcases Option.map_eq_some_iff.mp read with ⟨⟨inner, last⟩, isRead, same⟩
        cases same
        exact Nat.lt_succ_of_lt (inductionHypothesis isRead)
      · exact noReturn
      · exact noQuote

/-- What follows a literal is shorter than the code that starts with it. -/
theorem length_read? {characters : List Char} {reading : Reading}
    (read : read? characters = some reading) :
    reading.rest.length < characters.length := by
  unfold read? at read
  split at read
  · rename_i behind
    rcases Option.map_eq_some_iff.mp read with ⟨⟨text, rest⟩, isRead, rfl⟩
    exact Nat.lt_succ_of_lt (length_readQuoted isRead)
  · rename_i behind
    simp only at read
    split at read
    · rename_i inside opens
      split at read
      · rcases Option.map_eq_some_iff.mp read with ⟨⟨text, rest⟩, isRead, rfl⟩
        have shorter := length_readRaw isRead
        have within : inside.length < behind.length + 1 := by
          have dropped := congrArg List.length opens
          rw [List.length_drop, List.length_cons] at dropped
          omega
        rw [List.length_cons]
        exact Nat.lt_trans shorter within
      · cases read
    · cases read
  · cases read

end Templating.Code.Literal

namespace Templating.Code

/-- Different texts have different literals. -/
theorem literal_injective {text other : String}
    (same : literal text = literal other) : text = other := by
  rcases Literal.read?_literalChars text.toList [] with ⟨_, _, _, first⟩
  rcases Literal.read?_literalChars other.toList [] with ⟨_, _, _, second⟩
  have chars : Literal.literalChars text.toList =
      Literal.literalChars other.toList := String.ofList_injective same
  rw [chars, second, Option.some.injEq, Literal.Reading.mk.injEq] at first
  exact (String.toList_injective first.2.1).symm

/-- The literal of a text is read as this text whatever follows, and nothing of
what follows belongs to it. -/
theorem literal_reads_back (text following : String) :
    ∃ kind : Literal.Kind,
      Literal.read? (literal text ++ following).toList =
          some ⟨kind, text.toList, following.toList⟩ ∧
        '\r' ∉ (literal text).toList ∧
        ∀ hashes, kind = .raw hashes → 1 ≤ hashes ∧ hashes ≤ 255 := by
  rcases Literal.read?_literalChars text.toList following.toList with
    ⟨kind, within, noReturn, read⟩
  rw [String.toList_append, literal, String.toList_ofList]
  refine ⟨kind, read, noReturn, ?_⟩
  rintro hashes rfl
  exact within

-- The run of `#` touches the end of the text, so one more is needed there.
example : Literal.read? (literal "a\"#" ++ "#").toList =
    some ⟨.raw 2, "a\"#".toList, ['#']⟩ := by decide

end Templating.Code
