import Templating.Proofs.Text.Piece
import Templating.Render.Url

/-!
# What a passed address does in a browser

A browser does not read the scheme of an address from the text as it stands: it
skips blanks and control characters in front and leaves out tabs and line ends
anywhere.  So a scheme can be hidden from a reader that takes the address
literally.  An address that passes has no scheme in a browser that is not
allowed: what is left out is never a slash or a colon, and a scheme that passes
has nothing in it that could be left out.
-/

namespace Templating.Render

/-! ## Schemes as a browser reads them -/

/-- A character that a browser skips at the start of an address. -/
def isLeading (character : Char) : Bool :=
  character.toNat ≤ 0x20

/-- A browser leaves out tabs and line ends anywhere in an address. -/
def isRead (character : Char) : Bool :=
  character ≠ '\t' && character ≠ '\n' && character ≠ '\r'

/-- The characters of an address that a browser reads. -/
def effectiveChars (address : List Char) : List Char :=
  (address.dropWhile isLeading).filter isRead

/-- A character behind the first letter of a scheme. -/
def isSchemeChar (character : Char) : Bool :=
  character.isAlphanum || character = '+' || character = '-' || character = '.'

/-- The scheme at the start of the characters that a browser reads: a letter and
scheme characters up to a colon, in lower case. -/
def leadingScheme? (characters : List Char) : Option String :=
  match characters, characters.dropWhile isSchemeChar with
  | first :: _, ':' :: _ =>
      if first.isAlpha then
        some <| String.ofList <|
          (characters.takeWhile isSchemeChar).map Char.toLower
      else
        none
  | _, _ => none

/-- The scheme that a browser finds in an address. -/
def effectiveScheme? (address : String) : Option String :=
  leadingScheme? (effectiveChars address.toList)

/-- A scheme is what stands before the first colon. -/
theorem leadingScheme?_eq_some {characters : List Char} {scheme : String}
    (found : leadingScheme? characters = some scheme) :
    ∃ run rest, characters = run ++ ':' :: rest ∧
      (∀ character ∈ run, isSchemeChar character = true) ∧
      scheme = String.ofList (run.map Char.toLower) := by
  unfold leadingScheme? at found
  split at found
  · rename_i first others rest behind
    rw [Option.ite_none_right_eq_some, Option.some.injEq] at found
    refine ⟨_, rest, ?_, ?_, found.2.symm⟩
    · rw [← behind, List.takeWhile_append_dropWhile]
    · intro character member
      exact List.mem_takeWhile_imp member
  · cases found

/-! ## What a browser reads -/

variable {before after : List Char}

theorem mem_of_mem_effectiveChars {address : List Char} {character : Char}
    (member : character ∈ effectiveChars address) : character ∈ address :=
  (List.dropWhile_sublist _).subset (List.mem_of_mem_filter member)

/-- A character that is no blank and no control character is read. -/
theorem isRead_of_shown {character : Char}
    (shown : isLeading character = false) : isRead character = true := by
  have differs : ∀ other, isLeading other = true → character ≠ other := by
    rintro other leading rfl
    rw [shown] at leading
    cases leading
  simp [isRead, differs '\t' rfl, differs '\n' rfl, differs '\r' rfl]

theorem effectiveChars_append_cons {mark : Char}
    (shown : isLeading mark = false) :
    effectiveChars (before ++ mark :: after) =
      effectiveChars before ++ mark :: after.filter isRead := by
  induction before with
  | nil =>
      rw [List.nil_append, effectiveChars,
        List.dropWhile_cons_of_neg (Bool.eq_false_iff.mp shown),
        List.filter_cons_of_pos (isRead_of_shown shown)]
      rfl
  | cons character rest inductionHypothesis =>
      cases leading : isLeading character with
      | true =>
          rw [effectiveChars, effectiveChars, List.cons_append,
            List.dropWhile_cons_of_pos leading,
            List.dropWhile_cons_of_pos leading]
          exact inductionHypothesis
      | false =>
          have stays := Bool.eq_false_iff.mp leading
          rw [effectiveChars, effectiveChars, List.cons_append,
            List.dropWhile_cons_of_neg stays, List.dropWhile_cons_of_neg stays,
            ← List.cons_append, List.filter_append,
            List.filter_cons_of_pos (isRead_of_shown shown)]

theorem effectiveChars_of_shown {text : List Char}
    (shown : ∀ character ∈ text, isLeading character = false) :
    effectiveChars text = text := by
  have nothingSkipped : text.dropWhile isLeading = text :=
    List.dropWhile_eq_self_iff.mpr fun nonempty =>
      Bool.eq_false_iff.mp (shown _ (List.getElem_mem nonempty))
  rw [effectiveChars, nothingSkipped, List.filter_eq_self]
  intro character member
  exact isRead_of_shown (shown character member)

/-! ## Schemes that pass -/

theorem scheme?_of_not_mem {address : List Char} (noColon : ':' ∉ address) :
    scheme? address = none := by
  have absent : ¬address.contains ':' = true := by
    rwa [List.contains_iff_mem]
  rw [scheme?, beforeColon?, if_neg absent]
  rfl

theorem scheme?_append_colon (isFirst : ':' ∉ before) :
    scheme? (before ++ ':' :: after) =
      if '/' ∈ before then none else some before := by
  have present : (before ++ ':' :: after).contains ':' = true := by
    rw [List.contains_iff_mem]
    exact List.mem_append_right _ List.mem_cons_self
  have others : ∀ character ∈ before, decide (character ≠ ':') = true := by
    intro character member
    rw [decide_eq_true_eq]
    rintro rfl
    exact isFirst member
  rw [scheme?, beforeColon?, if_pos present,
    List.takeWhile_append_of_pos others]
  by_cases slash : '/' ∈ before
  · simp [slash]
  · simp [slash]

theorem isLeading_of_toLower_isAlpha {character : Char}
    (letter : character.toLower.isAlpha = true) :
    isLeading character = false := by
  rw [isLeading, decide_eq_false_iff_not]
  unfold Char.toLower at letter
  split at letter
  · rename_i upper
    have bound : 'A'.val.toNat = 65 := rfl
    rw [ge_iff_le, UInt32.le_iff_toNat_le] at upper
    have value : character.toNat = character.val.toNat := rfl
    omega
  · have alphanum : character.isAlphanum = true := by
      rw [Char.isAlphanum, letter, Bool.true_or]
    have between := Text.toNat_of_isAlphanum alphanum
    omega

/-- A browser reads all of a scheme that passes. -/
theorem effectiveChars_of_isAllowedScheme {scheme : List Char}
    (allowed : isAllowedScheme scheme = true) :
    effectiveChars scheme = scheme := by
  have letters : ∀ allowed ∈ allowedSchemes,
      allowed.toList.all Char.isAlpha = true := by decide
  rcases List.any_eq_true.mp allowed with ⟨name, isAllowed, same⟩
  rw [decide_eq_true_eq] at same
  apply effectiveChars_of_shown
  intro character member
  apply isLeading_of_toLower_isAlpha
  apply List.all_eq_true.mp (letters name isAllowed)
  rw [same]
  exact List.mem_map_of_mem member

/-- Whatever a browser skips and leaves out, the scheme that it finds in an
address that passes is an allowed one. -/
theorem effectiveScheme?_of_isSafeUrl {address scheme : String}
    (safe : isSafeUrl address.toList = true)
    (found : effectiveScheme? address = some scheme) :
    scheme ∈ allowedSchemes := by
  rcases leadingScheme?_eq_some found with ⟨run, rest, read, isScheme, rfl⟩
  have noMark : ∀ mark, isSchemeChar mark = false → mark ∉ run := by
    intro mark foreign member
    rw [isScheme mark member] at foreign
    cases foreign
  have colon : ':' ∈ address.toList := by
    apply mem_of_mem_effectiveChars
    rw [read]
    exact List.mem_append_right _ List.mem_cons_self
  rcases List.eq_append_cons_of_mem colon with ⟨before, after, split, isFirst⟩
  rw [split, effectiveChars_append_cons rfl] at read
  have isRun : effectiveChars before = run := by
    have parts := congrArg (List.splitOn ':') read
    rw [Text.splitOn_append_cons
        (fun member => isFirst (mem_of_mem_effectiveChars member)),
      Text.splitOn_append_cons (noMark ':' rfl)] at parts
    exact (List.cons.inj parts).1
  rw [isSafeUrl, split, scheme?_append_colon isFirst] at safe
  by_cases slash : '/' ∈ before
  · rcases List.append_of_mem slash with ⟨left, right, rfl⟩
    rw [effectiveChars_append_cons rfl] at isRun
    refine absurd ?_ (noMark '/' rfl)
    rw [← isRun]
    exact List.mem_append_right _ List.mem_cons_self
  · rw [if_neg slash] at safe
    rw [← isRun, effectiveChars_of_isAllowedScheme safe]
    rcases List.any_eq_true.mp safe with ⟨name, isAllowed, same⟩
    rw [decide_eq_true_eq] at same
    rw [← same, String.ofList_toList]
    exact isAllowed

/-- A scheme that only a browser finds does not pass. -/
example : effectiveScheme? " java\tScript:alert(1)" = some "javascript" ∧
    isSafeUrl " java\tScript:alert(1)".toList = false := by decide

/-- What becomes of an address has no scheme in a browser or an allowed one; the
fixed address that stands in for refused ones has a harmless scheme of its own.
Addresses without a scheme and with an allowed one are left as they are, and
nothing changes when an address is made safe again. -/
theorem safeUrl_sound (address : String) :
    (safeUrl address = address ∨
      safeUrl address = "about:invalid#TemplFailedSanitizationURL") ∧
    (∀ scheme, effectiveScheme? (safeUrl address) = some scheme →
      scheme ∈ ["http", "https", "mailto"] ∨
        (scheme = "about" ∧
          safeUrl address = "about:invalid#TemplFailedSanitizationURL")) ∧
    (':' ∉ address.toList → safeUrl address = address) ∧
    (∀ before after, address.toList = before ++ ':' :: after →
      ':' ∉ before →
      '/' ∈ before ∨
        String.ofList (before.map Char.toLower) ∈
          ["http", "https", "mailto"] →
      safeUrl address = address) ∧
    safeUrl (safeUrl address) = safeUrl address := by
  have passes : isSafeUrl address.toList = true →
      safeUrl address = address := by
    intro safe
    rw [safeUrl, if_pos safe]
  have outcome : (isSafeUrl address.toList = true ∧
      safeUrl address = address) ∨ safeUrl address = failedUrl := by
    by_cases safe : isSafeUrl address.toList = true
    · exact .inl ⟨safe, passes safe⟩
    · rw [safeUrl, if_neg safe]
      exact .inr rfl
  refine ⟨outcome.imp And.right id, ?_, ?_, ?_, ?_⟩
  · intro scheme found
    rcases outcome with ⟨safe, same⟩ | failed
    · rw [same] at found
      exact .inl (effectiveScheme?_of_isSafeUrl safe found)
    · have fixed : effectiveScheme? failedUrl = some "about" := by decide
      rw [failed, fixed, Option.some.injEq] at found
      exact .inr ⟨found.symm, failed⟩
  · intro noColon
    apply passes
    rw [isSafeUrl, scheme?_of_not_mem noColon]
  · intro before after split isFirst harmless
    apply passes
    rw [isSafeUrl, split, scheme?_append_colon isFirst]
    by_cases slash : '/' ∈ before
    · rw [if_pos slash]
    · rw [if_neg slash]
      apply List.any_eq_true.mpr
      refine ⟨_, harmless.resolve_left slash, ?_⟩
      rw [String.toList_ofList, decide_eq_true_eq]
  · rcases outcome with ⟨_, same⟩ | failed
    · rw [same, same]
    · rw [failed, safeUrl, ite_self]

end Templating.Render
