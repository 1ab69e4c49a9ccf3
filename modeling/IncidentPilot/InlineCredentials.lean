import IncidentPilot.Redaction

/-!
# Inline bearer credentials

Which texts before a bearer credential let it through.  The substitution runs
from the left; what it has decided when it comes to the word `Bearer` depends on
the text before that word only, because no repetition of the pattern that starts
there can take the blank after it.
-/

namespace IncidentPilot

/-- Python counts ASCII letters and digits as alphanumeric, and no blank. -/
structure JsonTools.WordCharacters (tools : JsonTools) : Prop where
  ascii : ∀ char : Char, char.isAlphanum = true → tools.alnum char = true
  blank : tools.alnum ' ' = false

/-- A character of `[A-Za-z0-9_.-]`. -/
def asciiCredentialChar (char : Char) : Bool :=
  char.isAlphanum || char = '_' || char = '.' || char = '-'

/-- A credential over `[A-Za-z0-9_.-]`. -/
structure AsciiCredential (credential : List Char) : Prop where
  nonempty : credential ≠ []
  ascii : ∀ char ∈ credential, asciiCredentialChar char = true

/-- A text that does not go on with a character of a credential. -/
def EndsCredential (text : List Char) : Prop :=
  ∀ char ∈ text.head?, asciiCredentialChar char = false

instance (text : List Char) : Decidable (EndsCredential text) :=
  inferInstanceAs (Decidable (∀ char ∈ text.head?, _))

/-- The word before a bearer credential. -/
def bearerWord : List Char :=
  "Bearer".toList

/--
`INLINE_SECRET.sub` over a text that is followed by another one: what is
written, and how many characters of the other text a match has taken.
-/
def substituteBefore
    (tools : JsonTools) :
    Nat → List Char → List Char → List Char × Nat
  | taken, [], _ => ([], taken)
  | taken + 1, _ :: rest, following =>
      substituteBefore tools taken rest following
  | 0, char :: rest, following =>
      match inlineSecret tools (char :: (rest ++ following)) with
      | none =>
          let later := substituteBefore tools 0 rest following
          (char :: later.1, later.2)
      | some found =>
          let later :=
            substituteBefore tools
              ((rest ++ following).length - found.after.length) rest
              following
          (found.replacement ++ later.1, later.2)

/--
A match of the pattern that begins in a text takes the word `Bearer` that
follows it.
-/
def TakesBearer (tools : JsonTools) (text : List Char) : Prop :=
  (substituteBefore tools 0 text bearerWord).2 ≠ 0

instance (tools : JsonTools) (text : List Char) :
    Decidable (TakesBearer tools text) :=
  inferInstanceAs (Decidable (_ ≠ _))

section Substitution

variable {tools : JsonTools}

/-- Characters that are taken are not looked at. -/
theorem substituteFrom_taken
    (taken : Nat)
    (text : List Char) :
    substituteFrom tools taken text =
      substituteFrom tools 0 (text.drop taken) := by
  induction text generalizing taken with
  | nil =>
      simp [substituteFrom]
  | cons char rest inductionHypothesis =>
      cases taken with
      | zero => rfl
      | succ taken =>
          simp only [substituteFrom, List.drop_succ_cons]
          exact inductionHypothesis taken

/-- A match is replaced, and what it has taken is not looked at. -/
theorem substituteFrom_of_match
    {char : Char}
    {rest : List Char}
    {found : InlineSecret}
    (matched : inlineSecret tools (char :: rest) = some found) :
    substituteFrom tools 0 (char :: rest) =
      found.replacement ++
        substituteFrom tools (rest.length - found.after.length) rest := by
  simp only [substituteFrom, matched]

/-- The substitution of a text in two parts goes through them in turn. -/
theorem substituteFrom_append
    (taken : Nat)
    (text following : List Char) :
    substituteFrom tools taken (text ++ following) =
      (substituteBefore tools taken text following).1 ++
        substituteFrom tools
          (substituteBefore tools taken text following).2 following := by
  induction text generalizing taken with
  | nil =>
      rfl
  | cons char rest inductionHypothesis =>
      cases taken with
      | succ taken =>
          simp only [List.cons_append, substituteFrom, substituteBefore]
          exact inductionHypothesis taken
      | zero =>
          simp only [List.cons_append, substituteFrom, substituteBefore]
          cases inlineSecret tools (char :: (rest ++ following)) with
          | none =>
              simp only [List.cons_append]
              rw [inductionHypothesis]
          | some found =>
              simp only [List.append_assoc]
              rw [inductionHypothesis]

end Substitution

/-! ## What stops at a blank -/

/-- A text that goes on after a blank. -/
abbrev afterBlank (text following : List Char) : List Char :=
  text ++ ' ' :: following

/-- A repetition that takes no blank stops at one. -/
theorem dropWhile_afterBlank
    {takes : Char → Bool}
    (stops : takes ' ' = false)
    (text following : List Char) :
    (afterBlank text following).dropWhile takes =
      afterBlank (text.dropWhile takes) following := by
  induction text with
  | nil =>
      simp [afterBlank, stops]
  | cons char rest inductionHypothesis =>
      by_cases taken : takes char = true
      · simpa [afterBlank, taken] using inductionHypothesis
      · simp [afterBlank, taken]

/-- A repetition that does not take the last character of a text stops in it. -/
theorem dropWhile_append_of_last
    {takes : Char → Bool}
    {last : Char}
    (stops : takes last = false)
    {text : List Char}
    (ends : text.getLast? = some last)
    (following : List Char) :
    (text ++ following).dropWhile takes =
        text.dropWhile takes ++ following ∧
      (text.dropWhile takes).getLast? = some last := by
  induction text with
  | nil =>
      cases ends
  | cons char rest inductionHypothesis =>
      by_cases taken : takes char = true
      · have remains : rest ≠ [] := by
          rintro rfl
          simp only [List.getLast?_singleton, Option.some.injEq] at ends
          rw [ends, stops] at taken
          cases taken
        rw [List.getLast?_cons_of_ne_nil remains] at ends
        simpa [taken] using inductionHypothesis ends
      · simp [taken, ends]

/-- No letter of a word is a blank. -/
theorem afterWord_afterBlank
    {word : List Char}
    (noBlank : (word.any fun letter => matchesCaseless letter ' ') = false)
    (text following : List Char) :
    afterWord word (afterBlank text following) =
      (afterWord word text).map fun rest =>
        afterBlank rest following := by
  induction word generalizing text with
  | nil =>
      rfl
  | cons letter word inductionHypothesis =>
      simp only [List.any_cons, Bool.or_eq_false_iff] at noBlank
      cases text with
      | nil =>
          simp [afterBlank, afterWord, noBlank.1]
      | cons char rest =>
          by_cases matched : matchesCaseless letter char = true
          · have later := inductionHypothesis noBlank.2 rest
            simpa [afterBlank, afterWord, matched] using later
          · simp [afterBlank, afterWord, matched]

/-- What is left after a word is the end of the text. -/
theorem afterWord_suffix
    {word text rest : List Char}
    (read : afterWord word text = some rest) :
    ∃ leading, text = leading ++ rest ∧ leading.length = word.length := by
  induction word generalizing text with
  | nil =>
      cases read
      exact ⟨[], rfl, rfl⟩
  | cons letter word inductionHypothesis =>
      cases text with
      | nil => cases read
      | cons char text =>
          obtain ⟨-, later⟩ := Option.ite_none_right_eq_some.mp read
          obtain ⟨leading, same, length⟩ := inductionHypothesis later
          exact ⟨char :: leading, by simp [same], by simp [length]⟩

/-- A word whose last letter is not the last of a text leaves some of it. -/
theorem afterWord_last
    {word text rest : List Char}
    {last : Char}
    (read : afterWord word text = some rest)
    (ends : text.getLast? = some last)
    (differs :
      (word.getLast?.any fun letter => matchesCaseless letter last) =
        false) :
    rest.getLast? = some last := by
  induction word generalizing text with
  | nil =>
      cases read
      exact ends
  | cons letter word inductionHypothesis =>
      cases text with
      | nil => cases read
      | cons char text =>
          obtain ⟨matched, later⟩ :=
            Option.ite_none_right_eq_some.mp read
          cases text with
          | nil =>
              cases word with
              | nil =>
                  simp only [List.getLast?_singleton,
                    Option.some.injEq] at ends
                  rw [List.getLast?_singleton, Option.any_some, ← ends,
                    matched] at differs
                  cases differs
              | cons => cases later
          | cons next text =>
              rw [List.getLast?_cons_cons] at ends
              refine inductionHypothesis later ends ?_
              cases word with
              | nil => rfl
              | cons => rwa [List.getLast?_cons_cons] at differs

/-- `api[_-]?key` has no blank. -/
theorem afterApiKey_afterBlank
    (text following : List Char) :
    afterApiKey (afterBlank text following) =
      (afterApiKey text).map fun rest => afterBlank rest following := by
  unfold afterApiKey
  rw [afterWord_afterBlank (by decide)]
  cases afterWord "api".toList text with
  | none => rfl
  | some rest =>
      cases rest with
      | nil => rfl
      | cons char rest =>
          by_cases separated : char = '_' ∨ char = '-'
          · simp only [Option.map_some, afterBlank, List.cons_append,
              separated, if_true]
            exact afterWord_afterBlank (by decide) rest following
          · simp only [Option.map_some, afterBlank, List.cons_append,
              separated, if_false]
            exact
              afterWord_afterBlank (by decide) (char :: rest) following

/-- `api[_-]?key` leaves some of a text that ends with an `r`. -/
theorem afterApiKey_last
    {text rest : List Char}
    (read : afterApiKey text = some rest)
    (ends : text.getLast? = some 'r') :
    rest.getLast? = some 'r' := by
  unfold afterApiKey at read
  cases named : afterWord "api".toList text with
  | none =>
      rw [named] at read
      cases read
  | some remaining =>
      have inner := afterWord_last named ends (by decide)
      rw [named] at read
      cases remaining with
      | nil => cases read
      | cons char remaining =>
          simp only at read
          split at read
          · rename_i separated
            refine afterWord_last read ?_ (by decide)
            cases remaining with
            | nil =>
                simp only [List.getLast?_singleton,
                  Option.some.injEq] at inner
                rw [inner] at separated
                revert separated
                decide
            | cons => rwa [List.getLast?_cons_cons] at inner
          · exact afterWord_last read inner (by decide)

/-- A name of a secret has no blank. -/
theorem afterSecretName_afterBlank
    (text following : List Char) :
    afterSecretName (afterBlank text following) =
      (afterSecretName text).map fun rest =>
        afterBlank rest following := by
  unfold afterSecretName
  rw [afterWord_afterBlank (by decide), afterApiKey_afterBlank,
    afterWord_afterBlank (by decide), afterWord_afterBlank (by decide)]
  simp only [Option.map_or]

/-- A name of a secret leaves some of a text that ends with an `r`. -/
theorem afterSecretName_last
    {text rest : List Char}
    (read : afterSecretName text = some rest)
    (ends : text.getLast? = some 'r') :
    rest.getLast? = some 'r' := by
  unfold afterSecretName at read
  rcases Option.or_eq_some_iff.mp read with password | ⟨-, read⟩
  · exact afterWord_last password ends (by decide)
  rcases Option.or_eq_some_iff.mp read with apiKey | ⟨-, read⟩
  · exact afterApiKey_last apiKey ends
  rcases Option.or_eq_some_iff.mp read with token | ⟨-, secret⟩
  · exact afterWord_last token ends (by decide)
  · exact afterWord_last secret ends (by decide)

/-- A match in a text, read in the text that goes on after a blank. -/
def InlineSecret.extended
    (following : List Char)
    (found : InlineSecret) : InlineSecret :=
  { found with after := afterBlank found.after following }

/-- What a match keeps does not depend on what follows the blank. -/
theorem keepUpTo_afterBlank
    (text secret following : List Char) :
    keepUpTo (afterBlank text following) (afterBlank secret following) =
      keepUpTo text secret := by
  have count :
      (afterBlank text following).length -
          (afterBlank secret following).length =
        text.length - secret.length := by
    simp only [afterBlank, List.length_append, List.length_cons]
    omega
  simp only [keepUpTo]
  rw [count, afterBlank, List.take_append_of_le_length (Nat.sub_le _ _)]

section Matches

variable {tools : JsonTools}

/-- A bearer match in a text longer than `bearer` stops at the blank. -/
theorem bearerSecret_afterBlank
    (blank : tools.alnum ' ' = false)
    {text : List Char}
    (ends : text.getLast? = some 'r')
    (longer : 6 < text.length)
    (following : List Char) :
    bearerSecret tools (afterBlank text following) =
      (bearerSecret tools text).map (.extended following) := by
  unfold bearerSecret
  rw [afterWord_afterBlank (by decide)]
  cases named : afterWord "bearer".toList text with
  | none => rfl
  | some spaces =>
      have spacesEnd : spaces.getLast? = some 'r' := by
        obtain ⟨leading, same, length⟩ := afterWord_suffix named
        have remains : spaces ≠ [] := by
          rintro rfl
          rw [same, List.append_nil, length] at longer
          exact absurd longer (by decide)
        rwa [same, List.getLast?_append_of_ne_nil _ remains] at ends
      have credential :=
        (dropWhile_append_of_last (by decide : isSpace 'r' = false)
          spacesEnd (' ' :: following)).1
      have stops : credentialChar tools ' ' = false := by
        simp [credentialChar, blank]
      simp only [Option.map_some]
      rw [credential, dropWhile_afterBlank stops]
      simp only [afterBlank, List.append_left_inj]
      split
      · rfl
      · simp only [Option.map_some, InlineSecret.extended,
          Option.some.injEq, InlineSecret.mk.injEq, and_true]
        exact keepUpTo_afterBlank text _ following

/-- An assignment in a text that ends with an `r` stops at the blank. -/
theorem assignedSecret_afterBlank
    {text : List Char}
    (ends : text.getLast? = some 'r')
    (following : List Char) :
    assignedSecret (afterBlank text following) =
      (assignedSecret text).map (.extended following) := by
  unfold assignedSecret
  rw [afterSecretName_afterBlank]
  cases named : afterSecretName text with
  | none => rfl
  | some rest =>
      obtain ⟨spaces, spacesEnd⟩ :=
        dropWhile_append_of_last (by decide : isSpace 'r' = false)
          (afterSecretName_last named ends) (' ' :: following)
      simp only [Option.map_some, spaces]
      cases trimmed : rest.dropWhile isSpace with
      | nil =>
          rw [trimmed] at spacesEnd
          cases spacesEnd
      | cons sign rest =>
          rw [trimmed] at spacesEnd
          simp only [List.cons_append]
          split
          · rename_i isSign
            have remains : rest ≠ [] := by
              rintro rfl
              simp only [List.getLast?_singleton,
                Option.some.injEq] at spacesEnd
              rw [spacesEnd] at isSign
              revert isSign
              decide
            rw [List.getLast?_cons_of_ne_nil remains] at spacesEnd
            obtain ⟨quoted, quotedEnd⟩ :=
              dropWhile_append_of_last (by decide : isSpace 'r' = false)
                spacesEnd (' ' :: following)
            rw [quoted]
            have assigned
                (secret : List Char) :
                (if secret ++ ' ' :: following =
                    (secret ++ ' ' :: following).dropWhile assignedChar
                  then none
                  else
                    some
                      (InlineSecret.mk
                        (keepUpTo (afterBlank text following)
                          (secret ++ ' ' :: following))
                        ((secret ++ ' ' :: following).dropWhile
                          assignedChar))) =
                  (if secret = secret.dropWhile assignedChar then none
                  else
                    some
                      (InlineSecret.mk (keepUpTo text secret)
                        (secret.dropWhile assignedChar))).map
                    (.extended following) := by
              rw [dropWhile_afterBlank (by decide : _ = false)]
              simp only [List.append_left_inj]
              split
              · rfl
              · simp only [Option.map_some, InlineSecret.extended,
                  Option.some.injEq, InlineSecret.mk.injEq, and_true]
                exact keepUpTo_afterBlank text secret following
            cases unspaced : rest.dropWhile isSpace with
            | nil =>
                rw [unspaced] at quotedEnd
                cases quotedEnd
            | cons quote inner =>
                simp only [List.cons_append]
                split
                · exact assigned inner
                · exact assigned (quote :: inner)
          · rfl

/-- The characters of `[^:/\s]`. -/
def hostChar (char : Char) : Bool :=
  !isSpace char && char ≠ ':' && char ≠ '/'

/-- The characters of `[^@\s]`. -/
def passwordChar (char : Char) : Bool :=
  !isSpace char && char ≠ '@'

/-- The parts of a URL with a password. -/
structure UrlMatch
    (text authority password after : List Char) : Prop where
  scheme : text.dropWhile schemeChar = ':' :: '/' :: '/' :: authority
  hasScheme : text.dropWhile schemeChar ≠ text
  host : authority.dropWhile hostChar = ':' :: password
  hasHost : authority.dropWhile hostChar ≠ authority
  sign : password.dropWhile passwordChar = '@' :: after
  hasPassword : password.dropWhile passwordChar ≠ password

/-- When a URL with a password is found, and what then replaces it. -/
theorem urlSecret_eq_some
    {text : List Char}
    {found : InlineSecret} :
    urlSecret text = some found ↔
      ∃ authority password after,
        UrlMatch text authority password after ∧
          found = ⟨keepUpTo text password ++ ['@'], after⟩ := by
  constructor
  · intro matched
    unfold urlSecret at matched
    dsimp only at matched
    split at matched
    · rename_i authority scheme
      split at matched
      · rename_i password host
        split at matched
        · rename_i after sign
          obtain ⟨proper, same⟩ :=
            Option.ite_none_left_eq_some.mp matched
          simp only [not_or] at proper
          exact
            ⟨authority, password, after,
              ⟨scheme, proper.1, host, proper.2.1, sign, proper.2.2⟩,
              (Option.some.inj same).symm⟩
        · cases matched
      · cases matched
    · cases matched
  · rintro ⟨authority, password, after, parts, rfl⟩
    have host := parts.host
    have sign := parts.sign
    have hasScheme := parts.hasScheme
    have hasHost := parts.hasHost
    have hasPassword := parts.hasPassword
    unfold hostChar at host hasHost
    unfold passwordChar at sign hasPassword
    rw [parts.scheme] at hasScheme
    rw [host] at hasHost
    rw [sign] at hasPassword
    simp only [urlSecret, parts.scheme, host, sign]
    simp [hasScheme, hasHost, hasPassword]

/-- A text that goes on after a blank starts as the text does. -/
theorem afterBlank_eq_cons
    {text following rest : List Char}
    {char : Char}
    (visible : char ≠ ' ')
    (same : afterBlank text following = char :: rest) :
    ∃ remaining,
      text = char :: remaining ∧
        afterBlank remaining following = rest := by
  cases text with
  | nil =>
      simp only [afterBlank, List.nil_append, List.cons.injEq] at same
      exact absurd same.1.symm visible
  | cons first remaining =>
      simp only [afterBlank, List.cons_append, List.cons.injEq] at same
      exact ⟨remaining, by rw [same.1], same.2⟩

/-- A password in a URL stops at the blank. -/
theorem urlSecret_afterBlank
    (text following : List Char) :
    urlSecret (afterBlank text following) =
      (urlSecret text).map (.extended following) := by
  have hostStops : hostChar ' ' = false := by decide
  have passwordStops : passwordChar ' ' = false := by decide
  have schemeStops : schemeChar ' ' = false := by decide
  refine Option.ext fun found => ?_
  rw [Option.map_eq_some_iff, urlSecret_eq_some]
  constructor
  · rintro ⟨authority, password, after, parts, rfl⟩
    obtain ⟨scheme, hasScheme, host, hasHost, sign, hasPassword⟩ := parts
    rw [dropWhile_afterBlank schemeStops] at scheme hasScheme
    obtain ⟨_, schemeHere, colon⟩ :=
      afterBlank_eq_cons (by decide) scheme
    obtain ⟨_, rfl, slash⟩ := afterBlank_eq_cons (by decide) colon
    obtain ⟨inner, rfl, rfl⟩ := afterBlank_eq_cons (by decide) slash
    rw [dropWhile_afterBlank hostStops] at host hasHost
    obtain ⟨secret, hostHere, rfl⟩ :=
      afterBlank_eq_cons (by decide) host
    rw [dropWhile_afterBlank passwordStops] at sign hasPassword
    obtain ⟨remaining, signHere, rfl⟩ :=
      afterBlank_eq_cons (by decide) sign
    refine
      ⟨⟨keepUpTo text secret ++ ['@'], remaining⟩,
        urlSecret_eq_some.mpr
          ⟨inner, secret, remaining,
            ⟨schemeHere, ?_, hostHere, ?_, signHere, ?_⟩, rfl⟩, ?_⟩
    · exact fun same => hasScheme (by rw [same])
    · exact fun same => hasHost (by rw [same])
    · exact fun same => hasPassword (by rw [same])
    · simp only [InlineSecret.extended, InlineSecret.mk.injEq, and_true]
      rw [keepUpTo_afterBlank]
  · rintro ⟨found, matched, rfl⟩
    obtain ⟨authority, password, after, parts, rfl⟩ :=
      urlSecret_eq_some.mp matched
    refine
      ⟨afterBlank authority following, afterBlank password following,
        afterBlank after following, ⟨?_, ?_, ?_, ?_, ?_, ?_⟩, ?_⟩
    · rw [dropWhile_afterBlank schemeStops, parts.scheme]
      rfl
    · rw [dropWhile_afterBlank schemeStops]
      exact fun same =>
        parts.hasScheme ((List.append_left_inj _).mp same)
    · rw [dropWhile_afterBlank hostStops, parts.host]
      rfl
    · rw [dropWhile_afterBlank hostStops]
      exact fun same =>
        parts.hasHost ((List.append_left_inj _).mp same)
    · rw [dropWhile_afterBlank passwordStops, parts.sign]
      rfl
    · rw [dropWhile_afterBlank passwordStops]
      exact fun same =>
        parts.hasPassword ((List.append_left_inj _).mp same)
    · rw [keepUpTo_afterBlank]
      rfl

/-- A match that starts before the word `Bearer` stops at the blank after it. -/
theorem inlineSecret_afterBlank
    (blank : tools.alnum ' ' = false)
    {text : List Char}
    (ends : text.getLast? = some 'r')
    (longer : 6 < text.length)
    (following : List Char) :
    inlineSecret tools (afterBlank text following) =
      (inlineSecret tools text).map (.extended following) := by
  unfold inlineSecret
  rw [bearerSecret_afterBlank blank ends longer,
    assignedSecret_afterBlank ends, urlSecret_afterBlank]
  simp only [Option.map_or]

/-- What comes before a bearer credential is redacted without looking at it. -/
theorem substituteBefore_afterBlank
    (blank : tools.alnum ' ' = false)
    (taken : Nat)
    (text following : List Char) :
    substituteBefore tools taken text
        (afterBlank bearerWord following) =
      substituteBefore tools taken text bearerWord := by
  induction text generalizing taken with
  | nil => rfl
  | cons char rest inductionHypothesis =>
      cases taken with
      | succ taken => exact inductionHypothesis taken
      | zero =>
          have ends : (char :: (rest ++ bearerWord)).getLast? = some 'r' := by
            rw [← List.cons_append,
              List.getLast?_append_of_ne_nil _ (by decide)]
            decide
          have longer : 6 < (char :: (rest ++ bearerWord)).length := by
            have length : bearerWord.length = 6 := by decide
            simp only [List.length_cons, List.length_append, length]
            omega
          have here :=
            inlineSecret_afterBlank blank ends longer following
          have shape :
              char :: (rest ++ afterBlank bearerWord following) =
                afterBlank (char :: (rest ++ bearerWord)) following := by
            simp [afterBlank]
          simp only [substituteBefore]
          rw [shape, here]
          cases inlineSecret tools (char :: (rest ++ bearerWord)) with
          | none =>
              simp only [Option.map_none]
              rw [inductionHypothesis]
          | some found =>
              have count :
                  (rest ++ afterBlank bearerWord following).length -
                      (afterBlank found.after following).length =
                    (rest ++ bearerWord).length - found.after.length := by
                simp only [afterBlank, List.length_append,
                  List.length_cons]
                omega
              simp only [Option.map_some, InlineSecret.extended]
              rw [count, inductionHypothesis]

/-- A match takes no more than there is. -/
theorem substituteBefore_taken_le
    (taken : Nat)
    (text following : List Char)
    (bounded : taken ≤ (text ++ following).length) :
    (substituteBefore tools taken text following).2 ≤
      following.length := by
  induction text generalizing taken with
  | nil => simpa [substituteBefore] using bounded
  | cons char rest inductionHypothesis =>
      cases taken with
      | succ taken =>
          refine inductionHypothesis taken ?_
          simpa using bounded
      | zero =>
          simp only [substituteBefore]
          cases inlineSecret tools (char :: (rest ++ following)) with
          | none => exact inductionHypothesis 0 (Nat.zero_le _)
          | some found => exact inductionHypothesis _ (Nat.sub_le _ _)

/-! ## What is kept of a match -/

/-- A match keeps the text before its secret, a delimiter included. -/
def KeepsDelimiter (text : List Char) (found : InlineSecret) : Prop :=
  ∃ kept later,
    found.replacement = kept ++ later ∧
      kept <+: text ∧
      ∃ char ∈ kept, asciiCredentialChar char = false

/-- What is kept up to a secret holds every character before it. -/
theorem keepsDelimiter_of_before
    {rest secret : List Char}
    {char : Char}
    (leading : List Char)
    (delimits : asciiCredentialChar char = false)
    (short : secret.length ≤ rest.length)
    (later after : List Char) :
    KeepsDelimiter (leading ++ char :: rest)
      ⟨keepUpTo (leading ++ char :: rest) secret ++ later, after⟩ := by
  refine
    ⟨_, "[REDACTED]".toList ++ later, List.append_assoc ..,
      List.take_prefix _ _, char, ?_, delimits⟩
  have count :
      (leading ++ char :: rest).length - secret.length =
        leading.length + (rest.length - secret.length + 1) := by
    simp only [List.length_append, List.length_cons]
    omega
  rw [count, List.take_length_add_append, List.take_succ_cons]
  simp

/-- What a repetition leaves is not longer than what it started with. -/
theorem length_dropWhile_le
    (takes : Char → Bool)
    (text : List Char) :
    (text.dropWhile takes).length ≤ text.length :=
  (List.dropWhile_suffix takes).length_le

/-- No credential holds a blank. -/
theorem asciiCredentialChar_of_isSpace
    {char : Char}
    (space : isSpace char = true) :
    asciiCredentialChar char = false := by
  rw [Bool.eq_false_iff]
  intro credential
  have within : 45 ≤ char.toNat ∧ char.toNat ≤ 122 := by
    unfold asciiCredentialChar Char.isAlphanum at credential
    delta Char.isAlpha Char.isUpper Char.isLower at credential
    simp only [Char.isDigit, Bool.or_eq_true, Bool.and_eq_true,
      decide_eq_true_eq, ge_iff_le, UInt32.le_iff_toNat_le]
      at credential
    rcases credential with ((letter | rfl) | rfl) | rfl
    · simp at letter
      omega
    all_goals decide
  simp only [isSpace, Bool.or_eq_true, decide_eq_true_eq,
    List.contains_iff_mem, List.mem_cons, List.not_mem_nil,
    or_false] at space
  omega

/-- A bearer match keeps the blanks after the word. -/
theorem bearerSecret_keepsDelimiter
    {text : List Char}
    {found : InlineSecret}
    (matched : bearerSecret tools text = some found) :
    KeepsDelimiter text found := by
  unfold bearerSecret at matched
  cases named : afterWord "bearer".toList text with
  | none =>
      rw [named] at matched
      cases matched
  | some spaces =>
      rw [named] at matched
      obtain ⟨proper, same⟩ := Option.ite_none_left_eq_some.mp matched
      obtain rfl := Option.some.inj same
      obtain ⟨leading, rfl, -⟩ := afterWord_suffix named
      cases spaces with
      | nil => exact absurd (.inl rfl) proper
      | cons space rest =>
          by_cases blank : isSpace space = true
          · have kept :=
              keepsDelimiter_of_before leading
                (asciiCredentialChar_of_isSpace blank)
                (length_dropWhile_le isSpace rest) []
                ((rest.dropWhile isSpace).dropWhile
                  (credentialChar tools))
            simpa [blank] using kept
          · exact absurd (.inl (by simp [blank])) proper

/-- What is left after the name of a secret is the end of the text. -/
theorem afterSecretName_suffix
    {text rest : List Char}
    (read : afterSecretName text = some rest) :
    ∃ leading, text = leading ++ rest := by
  have afterKey
      {text rest : List Char}
      (read : afterApiKey text = some rest) :
      ∃ leading, text = leading ++ rest := by
    unfold afterApiKey at read
    cases named : afterWord "api".toList text with
    | none =>
        rw [named] at read
        cases read
    | some remaining =>
        obtain ⟨leading, rfl, -⟩ := afterWord_suffix named
        rw [named] at read
        cases remaining with
        | nil => cases read
        | cons char remaining =>
            simp only at read
            split at read
            · obtain ⟨inner, rfl, -⟩ := afterWord_suffix read
              exact ⟨leading ++ char :: inner, by simp⟩
            · obtain ⟨inner, same, -⟩ := afterWord_suffix read
              exact ⟨leading ++ inner, by simp [same]⟩
  unfold afterSecretName at read
  rcases Option.or_eq_some_iff.mp read with password | ⟨-, read⟩
  · obtain ⟨leading, same, -⟩ := afterWord_suffix password
    exact ⟨leading, same⟩
  rcases Option.or_eq_some_iff.mp read with apiKey | ⟨-, read⟩
  · exact afterKey apiKey
  rcases Option.or_eq_some_iff.mp read with token | ⟨-, secret⟩
  · obtain ⟨leading, same, -⟩ := afterWord_suffix token
    exact ⟨leading, same⟩
  · obtain ⟨leading, same, -⟩ := afterWord_suffix secret
    exact ⟨leading, same⟩

/-- An assignment keeps its sign. -/
theorem assignedSecret_keepsDelimiter
    {text : List Char}
    {found : InlineSecret}
    (matched : assignedSecret text = some found) :
    KeepsDelimiter text found := by
  unfold assignedSecret at matched
  cases named : afterSecretName text with
  | none =>
      rw [named] at matched
      cases matched
  | some rest =>
      obtain ⟨leading, rfl⟩ := afterSecretName_suffix named
      obtain ⟨spaces, spaced⟩ : rest.dropWhile isSpace <:+ rest :=
        List.dropWhile_suffix isSpace
      rw [named] at matched
      simp only [Option.map_some] at matched
      cases trimmed : rest.dropWhile isSpace with
      | nil =>
          rw [trimmed] at matched
          cases matched
      | cons sign inner =>
          rw [trimmed] at matched spaced
          obtain ⟨isSign, matched⟩ :=
            Option.ite_none_right_eq_some.mp matched
          obtain ⟨-, same⟩ := Option.ite_none_left_eq_some.mp matched
          obtain rfl := Option.some.inj same
          have delimits : asciiCredentialChar sign = false := by
            rcases isSign with rfl | rfl <;> decide
          subst spaced
          have kept
              {secret : List Char}
              (short : secret.length ≤ inner.length)
              (after : List Char) :=
            keepsDelimiter_of_before (leading ++ spaces) delimits short
              [] after
          simp only [List.append_nil, List.append_assoc] at kept
          refine kept ?_ _
          have shorter := length_dropWhile_le isSpace inner
          split
          · exact Nat.zero_le _
          · rename_i quoted
            rw [quoted, List.length_cons] at shorter
            split
            · exact Nat.le_of_succ_le shorter
            · exact length_dropWhile_le isSpace inner

/-- A URL keeps the colon before its password. -/
theorem urlSecret_keepsDelimiter
    {text : List Char}
    {found : InlineSecret}
    (matched : urlSecret text = some found) :
    KeepsDelimiter text found := by
  obtain ⟨authority, password, after, parts, rfl⟩ :=
    urlSecret_eq_some.mp matched
  obtain ⟨host, hosted⟩ : authority.dropWhile hostChar <:+ authority :=
    List.dropWhile_suffix hostChar
  obtain ⟨scheme, schemed⟩ : text.dropWhile schemeChar <:+ text :=
    List.dropWhile_suffix schemeChar
  rw [parts.host] at hosted
  rw [parts.scheme] at schemed
  subst hosted schemed
  have kept :=
    keepsDelimiter_of_before (scheme ++ ':' :: '/' :: '/' :: host)
      (by decide : asciiCredentialChar ':' = false)
      (Nat.le_refl password.length) ['@'] after
  simpa using kept

/-- Every match keeps a character that no credential has. -/
theorem inlineSecret_keepsDelimiter
    {text : List Char}
    {found : InlineSecret}
    (matched : inlineSecret tools text = some found) :
    KeepsDelimiter text found := by
  rcases Option.or_eq_some_iff.mp matched with bearer | ⟨-, matched⟩
  · exact bearerSecret_keepsDelimiter bearer
  rcases Option.or_eq_some_iff.mp matched with assigned | ⟨-, url⟩
  · exact assignedSecret_keepsDelimiter assigned
  · exact urlSecret_keepsDelimiter url

/-- What a repetition takes ends at the first character it does not take. -/
theorem takeWhile_append_of_stop
    {takes : Char → Bool}
    {kept : List Char}
    {char : Char}
    (member : char ∈ kept)
    (stops : takes char = false)
    (later : List Char) :
    (kept ++ later).takeWhile takes = kept.takeWhile takes := by
  induction kept with
  | nil => cases member
  | cons first rest inductionHypothesis =>
      by_cases taken : takes first = true
      · rcases List.mem_cons.mp member with rfl | member
        · rw [stops] at taken
          cases taken
        · simpa [taken] using inductionHypothesis member
      · simp [taken]

/-- A text keeps the characters of a credential it starts with. -/
theorem substituteFrom_takeWhile
    (text : List Char) :
    (substituteFrom tools 0 text).takeWhile asciiCredentialChar =
      text.takeWhile asciiCredentialChar := by
  induction text with
  | nil => rfl
  | cons char rest inductionHypothesis =>
      simp only [substituteFrom]
      cases matched : inlineSecret tools (char :: rest) with
      | none =>
          by_cases taken : asciiCredentialChar char = true
          · simp [taken, inductionHypothesis]
          · simp [taken]
      | some found =>
          obtain ⟨kept, later, written, ⟨after, whole⟩, delimiter,
            member, delimits⟩ := inlineSecret_keepsDelimiter matched
          simp only [written, ← whole, List.append_assoc]
          rw [takeWhile_append_of_stop member delimits,
            takeWhile_append_of_stop member delimits]

/-- A credential before a text that does not go on with it. -/
theorem takeWhile_credential
    {credential after : List Char}
    (ascii : AsciiCredential credential)
    (ends : EndsCredential after) :
    (credential ++ after).takeWhile asciiCredentialChar =
      credential := by
  have stops : after.takeWhile asciiCredentialChar = [] := by
    cases after with
    | nil => rfl
    | cons char rest =>
        simp [ends char (by simp)]
  rw [List.takeWhile_append_of_pos ascii.ascii, stops,
    List.append_nil]

/-! ## The credential itself -/

/-- Once its word is taken, what follows the blank is read as it stands. -/
theorem substituteFrom_taken_bearer
    {taken : Nat}
    (positive : taken ≠ 0)
    (bounded : taken ≤ bearerWord.length)
    (following : List Char) :
    substituteFrom tools taken (afterBlank bearerWord following) =
      afterBlank (bearerWord.drop taken)
        (substituteFrom tools 0 following) := by
  have length : bearerWord.length = 6 := by decide
  rw [length] at bounded
  match taken, positive, bounded with
  | 1, _, _ => rfl
  | 2, _, _ => rfl
  | 3, _, _ => rfl
  | 4, _, _ => rfl
  | 5, _, _ => rfl
  | 6, _, _ => rfl

/-- A credential starts behind the blank before it. -/
theorem dropWhile_blank_credential
    {credential : List Char}
    (ascii : AsciiCredential credential)
    (after : List Char) :
    (' ' :: (credential ++ after)).dropWhile isSpace =
      credential ++ after := by
  obtain ⟨nonempty, chars⟩ := ascii
  cases credential with
  | nil => exact absurd rfl nonempty
  | cons char rest =>
      have visible : isSpace char = false := by
        rw [Bool.eq_false_iff]
        intro space
        have clash := chars char List.mem_cons_self
        rw [asciiCredentialChar_of_isSpace space] at clash
        cases clash
      have blank : isSpace ' ' = true := by decide
      simp [blank, visible]

/-- A credential is taken whole. -/
theorem dropWhile_credentialChar
    (wordCharacters : tools.WordCharacters)
    {credential : List Char}
    (ascii : AsciiCredential credential)
    (after : List Char) :
    (credential ++ after).dropWhile (credentialChar tools) =
      after.dropWhile (credentialChar tools) := by
  apply List.dropWhile_append_of_pos
  intro char member
  have listed := ascii.ascii char member
  simp only [asciiCredentialChar, credentialChar, Bool.or_eq_true]
    at listed ⊢
  exact listed.imp (.imp (.imp (wordCharacters.ascii char) id) id) id

/-- What is kept before a credential is its word and the blank. -/
theorem keepUpTo_bearer (following : List Char) :
    keepUpTo (afterBlank bearerWord following) following =
      bearerWord ++ " [REDACTED]".toList := by
  have count :
      (afterBlank bearerWord following).length - following.length =
        7 := by
    have length : bearerWord.length = 6 := by decide
    simp only [afterBlank, List.length_append, List.length_cons, length]
    omega
  rw [keepUpTo, count]
  rfl

/-- A credential behind its word is a secret. -/
theorem bearerSecret_credential
    (wordCharacters : tools.WordCharacters)
    {credential : List Char}
    (ascii : AsciiCredential credential)
    (after : List Char) :
    bearerSecret tools (afterBlank bearerWord (credential ++ after)) =
      some
        ⟨bearerWord ++ " [REDACTED]".toList,
          after.dropWhile (credentialChar tools)⟩ := by
  have shorter :
      (after.dropWhile (credentialChar tools)).length ≤ after.length :=
    length_dropWhile_le _ after
  have positive : 0 < credential.length :=
    List.length_pos_of_ne_nil ascii.nonempty
  have word :
      afterWord "bearer".toList
          (afterBlank bearerWord (credential ++ after)) =
        some (' ' :: (credential ++ after)) := rfl
  unfold bearerSecret
  rw [word]
  simp only [dropWhile_blank_credential ascii,
    dropWhile_credentialChar wordCharacters ascii]
  rw [if_neg]
  · rw [keepUpTo_bearer]
  · rintro (same | same)
    · have length := congrArg List.length same
      simp at length
    · have length := congrArg List.length same
      simp only [List.length_append] at length
      omega

/-- A credential whose word has not been taken is removed. -/
theorem substituteFrom_bearer
    (wordCharacters : tools.WordCharacters)
    {credential : List Char}
    (ascii : AsciiCredential credential)
    (after : List Char) :
    substituteFrom tools 0
        (afterBlank bearerWord (credential ++ after)) =
      bearerWord ++ " [REDACTED]".toList ++
        substituteFrom tools 0
          (after.dropWhile (credentialChar tools)) := by
  have matched :
      inlineSecret tools (afterBlank bearerWord (credential ++ after)) =
        some
          ⟨bearerWord ++ " [REDACTED]".toList,
            after.dropWhile (credentialChar tools)⟩ := by
    rw [inlineSecret, bearerSecret_credential wordCharacters ascii]
    rfl
  have ending :
      after.dropWhile (credentialChar tools) <:+
        "earer".toList ++ ' ' :: (credential ++ after) := by
    refine
      (List.dropWhile_suffix _).trans
        ⟨"earer ".toList ++ credential, ?_⟩
    rw [List.append_assoc]
    rfl
  have shape :
      afterBlank bearerWord (credential ++ after) =
        'B' :: ("earer".toList ++ ' ' :: (credential ++ after)) := rfl
  rw [shape] at matched ⊢
  rw [substituteFrom_of_match matched, substituteFrom_taken,
    ← List.suffix_iff_eq_drop.mp ending]

end Matches

/-- `redact` of a text with a bearer credential in it. -/
def redactBearer
    (tools : JsonTools)
    (before credential after : String) : Json :=
  redact tools 0
    (.string (before ++ "Bearer " ++ credential ++ after))

/-- What is written of a text with a bearer credential in it. -/
theorem redactBearer_eq
    {tools : JsonTools}
    (wordCharacters : tools.WordCharacters)
    (before credential after : String) :
    redactBearer tools before credential after =
      .string
        (String.ofList
          ((substituteBefore tools 0 before.toList bearerWord).1 ++
            substituteFrom tools
              (substituteBefore tools 0 before.toList bearerWord).2
              (afterBlank bearerWord
                (credential.toList ++ after.toList)))) := by
  have shape :
      (before ++ "Bearer " ++ credential ++ after).toList =
        before.toList ++
          afterBlank bearerWord (credential.toList ++ after.toList) := by
    simp [String.toList_append, afterBlank, bearerWord]
  simp only [redactBearer, redact, Nat.not_lt_zero, if_false,
    redactInline]
  rw [shape, substituteFrom_append,
    substituteBefore_afterBlank wordCharacters.blank]

/--
The redacted text does not depend on a bearer credential exactly when no match
that begins before its word takes that word.
-/
theorem bearer_credential_removed_iff
    (tools : JsonTools)
    (wordCharacters : tools.WordCharacters)
    (before after first second : String)
    (firstAscii : AsciiCredential first.toList)
    (secondAscii : AsciiCredential second.toList)
    (ends : EndsCredential after.toList) :
    redactBearer tools before first after =
        redactBearer tools before second after ↔
      first = second ∨ ¬ TakesBearer tools before.toList := by
  rw [redactBearer_eq wordCharacters, redactBearer_eq wordCharacters]
  by_cases takes : TakesBearer tools before.toList
  · have bounded :
        (substituteBefore tools 0 before.toList bearerWord).2 ≤
          bearerWord.length :=
      substituteBefore_taken_le 0 _ _ (Nat.zero_le _)
    rw [substituteFrom_taken_bearer takes bounded,
      substituteFrom_taken_bearer takes bounded]
    constructor
    · intro same
      refine .inl ?_
      have texts :
          substituteFrom tools 0 (first.toList ++ after.toList) =
            substituteFrom tools 0 (second.toList ++ after.toList) := by
        have lists :
            (String.ofList
                (substituteFrom tools 0
                  (first.toList ++ after.toList))).toList =
              (String.ofList
                (substituteFrom tools 0
                  (second.toList ++ after.toList))).toList :=
          congrArg String.toList (by simpa [afterBlank] using same)
        simpa only [String.toList_ofList] using lists
      have runs := congrArg (List.takeWhile asciiCredentialChar) texts
      rw [substituteFrom_takeWhile, substituteFrom_takeWhile,
        takeWhile_credential firstAscii ends,
        takeWhile_credential secondAscii ends] at runs
      exact String.toList_inj.mp runs
    · rintro (rfl | removed)
      · rfl
      · exact absurd takes removed
  · have untaken :
        (substituteBefore tools 0 before.toList bearerWord).2 = 0 :=
      Decidable.not_not.mp takes
    rw [untaken, substituteFrom_bearer wordCharacters firstAscii,
      substituteFrom_bearer wordCharacters secondAscii]
    exact iff_of_true rfl (.inr takes)

/-- The tools of the samples count as Python does. -/
theorem sampleJsonTools_wordCharacters :
    sampleJsonTools.WordCharacters where
  ascii _ := id
  blank := by decide

/-- Three letters are a credential. -/
theorem asciiCredential_abc : AsciiCredential "abc".toList :=
  ⟨by decide, List.all_eq_true.mp (by decide)⟩

/-- So are three others. -/
theorem asciiCredential_xyz : AsciiCredential "xyz".toList :=
  ⟨by decide, List.all_eq_true.mp (by decide)⟩

/-- A semicolon ends a credential. -/
theorem endsCredential_semicolon : EndsCredential "; next".toList := by
  intro char first
  obtain rfl : ';' = char := Option.some.inj first
  decide

/-- A header in which the credential is removed. -/
theorem bearer_credential_removed_iff_header :
    redactBearer sampleJsonTools "Authorization: " "abc" "; next" =
      redactBearer sampleJsonTools "Authorization: " "xyz" "; next" :=
  (bearer_credential_removed_iff sampleJsonTools
      sampleJsonTools_wordCharacters "Authorization: " "; next" "abc"
      "xyz" asciiCredential_abc asciiCredential_xyz
      endsCredential_semicolon).mpr
    (.inr (by decide +kernel))

/--
After the name of a secret and a colon the word `Bearer` is taken for the
secret, and the credential after it stays.
-/
theorem named_bearer_credential_stays :
    AsciiCredential "abc".toList ∧
      AsciiCredential "xyz".toList ∧
      EndsCredential "".toList ∧
      redactBearer sampleJsonTools "token: " "abc" "" ≠
        redactBearer sampleJsonTools "token: " "xyz" "" := by
  refine
    ⟨asciiCredential_abc, asciiCredential_xyz, nofun, ?_⟩
  have differ :
      redactInline sampleJsonTools "token: Bearer abc" ≠
        redactInline sampleJsonTools "token: Bearer xyz" := by
    decide +kernel
  intro same
  simp only [redactBearer, redact, Nat.not_lt_zero, if_false,
    Json.string.injEq] at same
  exact differ same

end IncidentPilot
