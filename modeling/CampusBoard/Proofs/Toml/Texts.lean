import CampusBoard.Toml.Printer
import Mathlib.Tactic.Common
import Mathlib.Tactic.Lemma

/-!
# A written text reads back

Each of the four forms in which a text is written reads back as that text, for every text that is
written in that form.

## Design

The two forms between double quotes share their escapes and differ in what they do with quotes and
line breaks, and the two forms between three quotes share how they end and differ in what they do
with all else. Both have their own property of readers, so that what is shared is shown once:
`ReadsEscapes` and `ReadsRuns`. Between three quotes a quote can only be told from the end by what
follows it. What makes it readable is that the body never has three of them in a row, so that a run
of up to five at the end is the end with at most two quotes before it.

## Main definitions

* `CampusBoard.Toml.QuotedText.ReadsEscapes`: a reader of characters as they are escaped.
* `CampusBoard.Toml.QuotedText.ReadsRuns`: a reader of quotes between three quotes.

## Main results

* `CampusBoard.Toml.QuotedText.basic_flatMap`, `CampusBoard.Toml.QuotedText.literal_append`,
  `CampusBoard.Toml.QuotedText.multiBasic_writeMultiBasic`,
  `CampusBoard.Toml.QuotedText.multiLiteral_append`: the body of each form reads back.
* `CampusBoard.Toml.QuotedText.any?_writeText`: so does each written text.
-/

set_option autoImplicit false

namespace CampusBoard.Toml.QuotedText

/-- A reader of the body of a text. -/
abbrev BodyReader := List Char → Option (List Char × List Char)

/-- A character that was read comes before the rest of the body. -/
@[simp]
lemma prepend_some_some (c : Char) (body rest : List Char) :
    prepend (some c) (some (body, rest)) = some (c :: body, rest) := rfl

/-! ## Escapes -/

/-- A reader that takes the escapes of a text, and other characters as they are. -/
structure ReadsEscapes (read : BodyReader) : Prop where
  /-- An escape with a letter stands for one character. -/
  short : ∀ letter ∈ ['b', 't', 'n', 'f', 'r', '"', '\\'], ∀ rest,
    read ('\\' :: letter :: rest) = prepend (shortEscape? letter) (read rest)
  /-- So does an escape with four digits. -/
  quad : ∀ a b c d rest,
    read ('\\' :: 'u' :: a :: b :: c :: d :: rest) = prepend (quadEscape? a b c d) (read rest)
  /-- Any other character stands for itself. -/
  plain : ∀ c rest, c ≠ '"' → c ≠ '\\' → c ≠ '\n' → isForbidden c = false →
    read (c :: rest) = prepend (some c) (read rest)

/-- Digits are read as they are written. -/
lemma hexValue?_upperHexDigit {n : Nat} (h : n < 16) :
    Json.Reader.hexValue? (CampusBoard.Text.upperHexDigit n) = some n := by
  revert n
  decide

/-- The escape of a control character stands for that character. -/
lemma quadEscape?_of_isCode {c : Char} (h : isCode c = true) :
    quadEscape? '0' '0' (CampusBoard.Text.upperHexDigit (c.toNat / 16))
      (CampusBoard.Text.upperHexDigit (c.toNat % 16)) = some c := by
  have hlt : c.toNat < 128 := by
    simp only [isCode, isForbidden, Bool.and_eq_true, Bool.or_eq_true, decide_eq_true_eq,
      beq_iff_eq] at h
    omega
  have hzero : Json.Reader.hexValue? '0' = some 0 := by decide
  have hvalue : ((0 * 16 + 0) * 16 + c.toNat / 16) * 16 + c.toNat % 16 = c.toNat := by omega
  simp only [quadEscape?, Json.Reader.hexQuad?, hzero,
    hexValue?_upperHexDigit (show c.toNat / 16 < 16 by omega),
    hexValue?_upperHexDigit (show c.toNat % 16 < 16 by omega), Option.bind_eq_bind,
    Option.bind_some, Option.pure_def, hvalue, scalar?]
  rw [if_pos (Or.inl (by omega)), Char.ofNat_toNat]

/-- A character that is written without its code may stand in a text, unless it ends the line. -/
lemma isForbidden_of_not_isCode {c : Char} (h : isCode c = false) (hbreak : c ≠ '\n') :
    isForbidden c = false := by
  simpa [isCode, hbreak] using h

/-- A written character reads back. -/
lemma ReadsEscapes.writeChar {read : BodyReader} (hread : ReadsEscapes read) {c : Char}
    (hquote : c ≠ '"') (hbreak : c ≠ '\n') (rest : List Char) :
    read (writeChar c ++ rest) = prepend (some c) (read rest) := by
  unfold Toml.writeChar
  split_ifs with h₁ h₂ h₃ h₄ h₅ hcode
  · subst h₁
    exact hread.short 'b' (by simp) rest
  · subst h₂
    exact hread.short 't' (by simp) rest
  · subst h₃
    exact hread.short 'f' (by simp) rest
  · subst h₄
    exact hread.short 'r' (by simp) rest
  · subst h₅
    exact hread.short '\\' (by simp) rest
  · exact (hread.quad _ _ _ _ rest).trans (by rw [quadEscape?_of_isCode hcode])
  · rw [Bool.not_eq_true] at hcode
    exact hread.plain c rest hquote h₅ hbreak (isForbidden_of_not_isCode hcode hbreak)

/-! ## Texts on one line -/

/-- Texts on one line have escapes. -/
lemma readsEscapes_basic : ReadsEscapes basic where
  short letter hletter rest := by
    simp only [List.mem_cons, List.not_mem_nil, or_false] at hletter
    rcases hletter with rfl | rfl | rfl | rfl | rfl | rfl | rfl <;> rfl
  quad a b c d rest := rfl
  plain c rest hquote hbackslash hbreak hforbidden := by
    rw [basic.eq_def]
    split <;> simp_all

/-- **The body of a text between double quotes reads back.** -/
theorem basic_flatMap (cs rest : List Char) :
    basic (cs.flatMap writeBasicChar ++ '"' :: rest) = some (cs, rest) := by
  induction cs with
  | nil => rfl
  | cons c cs ih =>
    have hchar : ∀ tail, basic (writeBasicChar c ++ tail) = prepend (some c) (basic tail) := by
      intro tail
      unfold writeBasicChar
      split_ifs with hquote hbreak
      · subst hquote
        exact readsEscapes_basic.short '"' (by simp) tail
      · subst hbreak
        exact readsEscapes_basic.short 'n' (by simp) tail
      · exact readsEscapes_basic.writeChar hquote hbreak tail
    rw [List.flatMap_cons, List.append_assoc, hchar, ih]
    rfl

/-- **The body of a text between single quotes reads back** if it has neither a single quote nor a
character that may not stand in it. -/
theorem literal_append {cs : List Char} (h : ∀ c ∈ cs, c ≠ '\x27' ∧ isForbidden c = false)
    (rest : List Char) : literal (cs ++ '\x27' :: rest) = some (cs, rest) := by
  induction cs with
  | nil => rfl
  | cons c cs ih =>
    obtain ⟨hquote, hforbidden⟩ := h c List.mem_cons_self
    have hrest := ih fun c' hc' => h c' (List.mem_cons_of_mem c hc')
    simp [literal, hquote, hforbidden, hrest]

/-! ## Texts over several lines -/

/-- A reader that ends a text at the last three of a run of three to five quotes. -/
structure ReadsRuns (quote : Char) (read : BodyReader) : Prop where
  /-- Three quotes end the text. -/
  three : ∀ rest, rest.head? ≠ some quote → read (quote :: quote :: quote :: rest) = some ([], rest)
  /-- The first of four quotes belongs to the text. -/
  four : ∀ rest, rest.head? ≠ some quote →
    read (quote :: quote :: quote :: quote :: rest) = some ([quote], rest)
  /-- So do the first two of five quotes. -/
  five : ∀ rest, read (quote :: quote :: quote :: quote :: quote :: rest) =
    some ([quote, quote], rest)
  /-- A single quote belongs to the text. -/
  one : ∀ c rest, c ≠ quote → read (quote :: c :: rest) = prepend (some quote) (read (c :: rest))
  /-- So does the first of two. -/
  two : ∀ c rest, c ≠ quote →
    read (quote :: quote :: c :: rest) = prepend (some quote) (read (quote :: c :: rest))

/-- **A quote belongs to the text** if no two others follow it before the text ends. -/
theorem ReadsRuns.cons {quote : Char} {read : BodyReader} (hread : ReadsRuns quote read)
    {body rest : List Char} (hbody : ∀ more, body ≠ quote :: quote :: more)
    (hrest : rest.head? ≠ some quote) :
    read (quote :: (body ++ quote :: quote :: quote :: rest)) =
      prepend (some quote) (read (body ++ quote :: quote :: quote :: rest)) := by
  match body with
  | [] => simp [hread.three rest hrest, hread.four rest hrest]
  | [c] =>
    by_cases hc : c = quote
    · simp [hc, hread.four rest hrest, hread.five rest]
    · exact hread.one c _ hc
  | c :: c' :: more =>
    by_cases hc : c = quote
    · subst hc
      have hc' : c' ≠ c := fun h => hbody more (by rw [h])
      exact hread.two c' _ hc'
    · exact hread.one c _ hc

/-- Texts over several lines have escapes. -/
lemma readsEscapes_multiBasic : ReadsEscapes (multiBasic false) where
  short letter hletter rest := by
    simp only [List.mem_cons, List.not_mem_nil, or_false] at hletter
    rcases hletter with rfl | rfl | rfl | rfl | rfl | rfl | rfl <;> rfl
  quad a b c d rest := rfl
  plain c rest hquote hbackslash hbreak hforbidden := by
    have hreturn : c ≠ '\r' := by
      rintro rfl
      simp [isForbidden] at hforbidden
    rw [multiBasic.eq_def]
    split <;> simp_all

/-- Texts between three double quotes end at the last three of a run. -/
lemma readsRuns_multiBasic : ReadsRuns '"' (multiBasic false) where
  three rest hrest := by
    cases rest with
    | nil => rfl
    | cons c rest =>
      have hc : c ≠ '"' := by simpa using hrest
      simp [multiBasic, hc]
  four rest hrest := by
    cases rest with
    | nil => rfl
    | cons c rest =>
      have hc : c ≠ '"' := by simpa using hrest
      simp [multiBasic, hc]
  five rest := rfl
  one c rest hc := by simp [multiBasic, hc, isForbidden]
  two c rest hc := by simp [multiBasic, hc, isForbidden]

/-- Texts between three single quotes end at the last three of a run. -/
lemma readsRuns_multiLiteral : ReadsRuns '\x27' multiLiteral where
  three rest hrest := by
    cases rest with
    | nil => rfl
    | cons c rest =>
      have hc : c ≠ '\x27' := by simpa using hrest
      simp [multiLiteral, hc]
  four rest hrest := by
    cases rest with
    | nil => rfl
    | cons c rest =>
      have hc : c ≠ '\x27' := by simpa using hrest
      simp [multiLiteral, hc]
  five rest := rfl
  one c rest hc := by simp [multiLiteral, hc, isForbidden]
  two c rest hc := by simp [multiLiteral, hc, isForbidden]

/-! ### Between double quotes -/

/-- A written character begins neither with a double quote nor with a line break. -/
lemma exists_writeChar_eq_cons {c : Char} (hquote : c ≠ '"') (hbreak : c ≠ '\n') :
    ∃ d more, writeChar c = d :: more ∧ d ≠ '"' ∧ d ≠ '\n' ∧ d ≠ '\r' := by
  unfold Toml.writeChar codeEscape
  split_ifs with h₁ h₂ h₃ h₄
  -- an escape begins with a backslash, and a carriage return has one
  all_goals try exact ⟨'\\', _, rfl, by decide⟩
  exact ⟨c, [], rfl, hquote, hbreak, h₄⟩

/-- After two double quotes no third one is written as it stands. -/
lemma writeMultiBasic_two_ne_quote (cs more : List Char) : writeMultiBasic 2 cs ≠ '"' :: more := by
  cases cs with
  | nil => simp [writeMultiBasic]
  | cons c cs =>
    by_cases hquote : c = '"'
    · simp [writeMultiBasic, hquote]
    by_cases hbreak : c = '\n'
    · simp [writeMultiBasic, hbreak]
    · obtain ⟨d, tail, hwritten, hd, -⟩ := exists_writeChar_eq_cons hquote hbreak
      simp [writeMultiBasic, hquote, hbreak, hwritten, hd]

/-- After one double quote no two others are written as they stand. -/
lemma writeMultiBasic_ne_quotes {run : Nat} (hpos : 0 < run) (hrun : run ≤ 2)
    (cs more : List Char) : writeMultiBasic run cs ≠ '"' :: '"' :: more := by
  obtain rfl | rfl : run = 1 ∨ run = 2 := by omega
  · cases cs with
    | nil => simp [writeMultiBasic]
    | cons c cs =>
      by_cases hquote : c = '"'
      · simpa [writeMultiBasic, hquote] using writeMultiBasic_two_ne_quote cs more
      by_cases hbreak : c = '\n'
      · simp [writeMultiBasic, hbreak]
      · obtain ⟨d, tail, hwritten, hd, -⟩ := exists_writeChar_eq_cons hquote hbreak
        simp [writeMultiBasic, hquote, hbreak, hwritten, hd]
  · exact writeMultiBasic_two_ne_quote cs ('"' :: more)

/-- **The body of a text between three double quotes reads back.** -/
theorem multiBasic_writeMultiBasic {rest : List Char} (hrest : rest.head? ≠ some '"')
    (cs : List Char) (run : Nat) (hrun : run ≤ 2) :
    multiBasic false (writeMultiBasic run cs ++ '"' :: '"' :: '"' :: rest) = some (cs, rest) := by
  induction cs generalizing run with
  | nil => exact readsRuns_multiBasic.three rest hrest
  | cons c cs ih =>
    by_cases hquote : c = '"'
    · subst hquote
      by_cases hthird : run = 2
      · -- the third quote of a run is escaped, so the next one is a first one again
        have hescape := readsEscapes_multiBasic.short '"' (by simp)
          (writeMultiBasic 0 cs ++ '"' :: '"' :: '"' :: rest)
        simpa [writeMultiBasic, hthird, ih 0 (by omega), shortEscape?] using hescape
      · have hnext := writeMultiBasic_ne_quotes (Nat.succ_pos run) (by omega) cs
        simpa [writeMultiBasic, hthird, ih (run + 1) (by omega)] using
          readsRuns_multiBasic.cons hnext hrest
    by_cases hbreak : c = '\n'
    · simp [writeMultiBasic, hbreak, multiBasic, ih 0 (by omega)]
    · have hchar := readsEscapes_multiBasic.writeChar hquote hbreak
        (writeMultiBasic 0 cs ++ '"' :: '"' :: '"' :: rest)
      simpa [writeMultiBasic, hquote, hbreak, ih 0 (by omega)] using hchar

/-! ### Between single quotes -/

/-- The run that is under way counts. -/
lemma le_longestRunFrom (c : Char) (run : Nat) (cs : List Char) :
    run ≤ longestRunFrom c run cs := by
  induction cs generalizing run with
  | nil => exact Nat.le_refl run
  | cons d cs ih =>
    unfold longestRunFrom
    split_ifs
    · exact Nat.le_trans (Nat.le_succ run) (ih (run + 1))
    · exact Nat.le_max_left _ _

/-- **The body of a text between three single quotes reads back** if it has no three of them in a
row and no character that can only be written by its code. -/
theorem multiLiteral_append {rest : List Char} (hrest : rest.head? ≠ some '\x27') {cs : List Char}
    (hcodes : ∀ c ∈ cs, isCode c = false) {run : Nat}
    (hrun : longestRunFrom '\x27' run cs ≤ 2) :
    multiLiteral (cs ++ '\x27' :: '\x27' :: '\x27' :: rest) = some (cs, rest) := by
  induction cs generalizing run with
  | nil => exact readsRuns_multiLiteral.three rest hrest
  | cons c cs ih =>
    have hcode := hcodes c List.mem_cons_self
    have hcodes' : ∀ c' ∈ cs, isCode c' = false := fun c' hc' =>
      hcodes c' (List.mem_cons_of_mem c hc')
    unfold longestRunFrom at hrun
    split_ifs at hrun with hquote
    · subst hquote
      have hnext : ∀ more, cs ≠ '\x27' :: '\x27' :: more := by
        rintro more rfl
        have := le_longestRunFrom '\x27' (run + 1 + 1 + 1) more
        simp only [longestRunFrom, if_pos] at hrun
        omega
      rw [List.cons_append, readsRuns_multiLiteral.cons hnext hrest, ih hcodes' hrun]
      rfl
    have hread := ih hcodes' (Nat.le_trans (Nat.le_max_right _ _) hrun)
    by_cases hbreak : c = '\n'
    · simp [hbreak, multiLiteral, hread]
    · have hforbidden := isForbidden_of_not_isCode hcode hbreak
      have hreturn : c ≠ '\r' := by
        rintro rfl
        simp [isForbidden] at hforbidden
      rw [List.cons_append, multiLiteral.eq_def]
      split <;> simp_all

/-! ## Whole texts -/

/-- What has no run of `c` does not have `c`. -/
lemma ne_of_longestRunFrom_eq_zero {c : Char} {cs : List Char} (h : longestRunFrom c 0 cs = 0) :
    ∀ d ∈ cs, d ≠ c := by
  induction cs with
  | nil => simp
  | cons d cs ih =>
    unfold longestRunFrom at h
    split_ifs at h with hd
    · have := le_longestRunFrom c (0 + 1) cs
      omega
    · simp only [List.forall_mem_cons]
      exact ⟨hd, ih (by omega)⟩

/-- What is written between single quotes may stand there. -/
lemma of_formOf_eq_literal {cs : List Char} (h : formOf cs = .literal) :
    ∀ c ∈ cs, c ≠ '\x27' ∧ isForbidden c = false := by
  have hfit : (∀ c ∈ cs, isCode c = false) ∧ longestRun '\x27' cs = 0 ∧ '\n' ∉ cs := by
    simp only [formOf] at h
    split_ifs at h with h₁ h₂
    simp only [Bool.and_eq_true, Bool.not_eq_true', List.any_eq_false,
      decide_eq_true_eq, List.contains_eq_mem, decide_eq_false_iff_not, Bool.not_eq_true] at h₂
    exact ⟨h₂.1.1, h₂.1.2, h₂.2⟩
  intro c hc
  have hbreak : c ≠ '\n' := fun h => hfit.2.2 (h ▸ hc)
  exact ⟨ne_of_longestRunFrom_eq_zero hfit.2.1 c hc,
    isForbidden_of_not_isCode (hfit.1 c hc) hbreak⟩

/-- What is written between three single quotes may stand there. -/
lemma of_formOf_eq_multiLiteral {cs : List Char} (h : formOf cs = .multiLiteral) :
    (∀ c ∈ cs, isCode c = false) ∧ longestRun '\x27' cs ≤ 2 := by
  simp only [formOf] at h
  split_ifs at h with h₁ h₂ h₃ h₄
  simpa only [Bool.and_eq_true, Bool.not_eq_true', List.any_eq_false, decide_eq_true_eq,
    Bool.not_eq_true] using h₄

/-- The line break behind three opening quotes is passed over, and there is none otherwise. -/
lemma withoutFirstBreak_firstBreak {cs body : List Char}
    (h : '\n' ∉ cs → afterBreak? body = none) :
    withoutFirstBreak (firstBreak cs ++ body) = body := by
  by_cases hbreak : '\n' ∈ cs
  · simp [firstBreak, hbreak, withoutFirstBreak, afterBreak?]
  · simp [firstBreak, hbreak, withoutFirstBreak, h hbreak]

/-- No line break is at a character that does not make one. -/
lemma afterBreak?_cons {c : Char} (hbreak : c ≠ '\n') (hreturn : c ≠ '\r') (tail : List Char) :
    afterBreak? (c :: tail) = none := by
  unfold afterBreak?
  split <;> simp_all

/-- What is written between three double quotes begins with a line break only if the text has
one. -/
lemma afterBreak?_writeMultiBasic {cs : List Char} (hbreak : '\n' ∉ cs) (tail : List Char) :
    afterBreak? (writeMultiBasic 0 cs ++ '"' :: tail) = none := by
  cases cs with
  | nil => rfl
  | cons c cs =>
    simp only [List.mem_cons, not_or] at hbreak
    by_cases hquote : c = '"'
    · simp [writeMultiBasic, hquote, afterBreak?]
    obtain ⟨d, more, hwritten, -, hfeed, hreturn⟩ :=
      exists_writeChar_eq_cons hquote (Ne.symm hbreak.1)
    simpa [writeMultiBasic, hquote, Ne.symm hbreak.1, hwritten] using
      afterBreak?_cons hfeed hreturn (more ++ (writeMultiBasic 0 cs ++ '"' :: tail))

/-- What is written between single quotes has no line break in front unless the text has one. -/
lemma afterBreak?_literal {cs : List Char} (hcodes : ∀ c ∈ cs, isCode c = false)
    (hbreak : '\n' ∉ cs) (tail : List Char) : afterBreak? (cs ++ '\x27' :: tail) = none := by
  cases cs with
  | nil => rfl
  | cons c cs =>
    simp only [List.mem_cons, not_or] at hbreak
    refine afterBreak?_cons (Ne.symm hbreak.1) ?_ _
    rintro rfl
    simpa [isCode, isForbidden] using hcodes '\r' List.mem_cons_self

/-- A text that does not begin with a quote, its closing quote and what follows do not look like two
quotes in a row. -/
lemma append_ne_quotes {quote : Char} {body rest : List Char} (hbody : body.head? ≠ some quote)
    (hrest : rest.head? ≠ some quote) (more : List Char) :
    body ++ quote :: rest ≠ quote :: quote :: more := by
  cases body with
  | nil => cases rest <;> simp_all
  | cons c body => simp_all

/-- A text on one line between double quotes is not taken for one over several lines. -/
lemma any?_basic (cs : List Char) {rest : List Char} (hrest : rest.head? ≠ some '"') :
    any? ('"' :: (cs.flatMap writeBasicChar ++ '"' :: rest)) =
      basic (cs.flatMap writeBasicChar ++ '"' :: rest) := by
  have hbody : (cs.flatMap writeBasicChar).head? ≠ some '"' := by
    cases cs with
    | nil => simp
    | cons c cs =>
      rw [List.flatMap_cons]
      unfold writeBasicChar
      split_ifs with hquote hbreak
      · simp
      · simp
      · obtain ⟨d, more, hwritten, hd, -⟩ := exists_writeChar_eq_cons hquote hbreak
        simp [hwritten, hd]
  have hquotes := append_ne_quotes hbody hrest
  unfold any?
  split <;> simp_all

/-- A text on one line between single quotes is not taken for one over several lines. -/
lemma any?_literal {cs : List Char} (h : ∀ c ∈ cs, c ≠ '\x27') {rest : List Char}
    (hrest : rest.head? ≠ some '\x27') :
    any? ('\x27' :: (cs ++ '\x27' :: rest)) = literal (cs ++ '\x27' :: rest) := by
  have hbody : cs.head? ≠ some '\x27' := fun hhead =>
    h '\x27' (List.mem_of_mem_head? hhead) rfl
  have hquotes := append_ne_quotes hbody hrest
  unfold any?
  split <;> simp_all

/-- **A written text reads back**, whichever form it has, in front of anything but a quote. -/
theorem any?_writeText (cs rest : List Char) (hdouble : rest.head? ≠ some '"')
    (hsingle : rest.head? ≠ some '\x27') : any? (writeText cs ++ rest) = some (cs, rest) := by
  unfold writeText
  cases hform : formOf cs with
  | basic =>
    have hread := (any?_basic cs hdouble).trans (basic_flatMap cs rest)
    simpa using hread
  | literal =>
    have hfit := of_formOf_eq_literal hform
    have hread :=
      (any?_literal (fun c hc => (hfit c hc).1) hsingle).trans (literal_append hfit rest)
    simpa using hread
  | multiBasic =>
    have hread := multiBasic_writeMultiBasic hdouble cs 0 (by omega)
    have hfirst := withoutFirstBreak_firstBreak fun h : '\n' ∉ cs =>
      afterBreak?_writeMultiBasic h ('"' :: '"' :: rest)
    simpa [any?, hfirst] using hread
  | multiLiteral =>
    obtain ⟨hcodes, hrun⟩ := of_formOf_eq_multiLiteral hform
    have hread := multiLiteral_append hsingle hcodes hrun
    have hfirst := withoutFirstBreak_firstBreak fun h : '\n' ∉ cs =>
      afterBreak?_literal hcodes h ('\x27' :: '\x27' :: rest)
    simpa [any?, hfirst] using hread

end CampusBoard.Toml.QuotedText
