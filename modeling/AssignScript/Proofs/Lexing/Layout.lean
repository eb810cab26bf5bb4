import AssignScript.Proofs.Lexing.Letter
import AssignScript.Proofs.Lexing.Number
import AssignScript.Proofs.Lexing.Pieces

/-!
# Laying out words as a text

Words are written one after the other, names in single quotes and texts in double quotes, with blanks between
them where they would else run together. The scanner finds the same words again, whatever the blanks.

## Main definitions

* `Token.source`: how a word is written;
* `Token.Writable`: the words that can be written so;
* `Layout`: the texts that write some words;
* `IsWord`: a letter or an underscore with letters, digits and underscores behind it;
* `spaced`: the layout with single spaces.

## Main statements

* `front_source`: a word that is written is read again;
* `Layout.tokenize`: the words of a layout are the words laid out.
-/

namespace AssignScript

open Text

/-! ### Writing words -/

/-- A text with all double quotes doubled. -/
def doubled : List Char → List Char
  | [] => []
  | c :: cs => if c = '"' then '"' :: '"' :: doubled cs else c :: doubled cs

namespace Token

/-- How a word is written. -/
def source : Token → List Char
  | .identifier name => '\'' :: (name.toList ++ ['\''])
  | .number digits => digits.toList
  | .string content => '"' :: (doubled content.toList ++ ['"'])
  | .keyword k => k.spelling.toList
  | .mark m => m.spelling.toList
  | .endOfInput => []

/-- Names without single quotes, numbers of digits only, texts, keywords and marks. -/
inductive Writable : Token → Prop where
  | identifier {name : String} (h : '\'' ∉ name.toList) : Writable (.identifier name)
  | number {digits : String} (hne : digits.toList ≠ []) (h : AreDigits digits.toList) :
    Writable (.number digits)
  | string (content : String) : Writable (.string content)
  | keyword (k : Keyword) : Writable (.keyword k)
  | mark (m : Mark) : Writable (.mark m)

/-- Parentheses and commas, which nothing can be added to. -/
def standsAlone : Token → Bool
  | .mark .leftParen | .mark .rightParen | .mark .comma => true
  | _ => false

end Token

/-- The characters that end every word: blanks, parentheses and commas. -/
def breaks : List Char := [' ', '\t', '\n', '\x0c', '\r', '(', ')', ',']

/-- A text that does not continue what is written before it. -/
def Breaks (cs : List Char) : Prop := cs = [] ∨ ∃ c ds, cs = c :: ds ∧ c ∈ breaks

/-- The texts that write some words. There may be any blanks around the words, and there is one at least between
    two of them unless one of the two is a parenthesis or a comma. -/
inductive Layout : List Token → List Char → Prop where
  | done : Layout [] []
  | blank {ws : List Token} {cs : List Char} {c : Char} (hc : isAsciiBlank c = true) (h : Layout ws cs) :
    Layout ws (c :: cs)
  | word {w : Token} {ws : List Token} {cs : List Char} (hw : w.Writable) (h : Layout ws cs)
    (hcs : w.standsAlone = false → Breaks cs) : Layout (w :: ws) (w.source ++ cs)

/-! ### Reading words again -/

section

variable {rest : List Char}

theorem Breaks.takeWhile {p : Char → Bool} (hp : ∀ c ∈ breaks, p c = false) (h : Breaks rest) :
    rest.takeWhile p = [] := by
  obtain rfl | ⟨c, ds, rfl, hc⟩ := h
  · rfl
  · rw [List.takeWhile_cons, hp c hc]
    rfl

theorem Breaks.takeWhile_append {p : Char → Bool} {cs : List Char} (hp : ∀ c ∈ breaks, p c = false)
    (hcs : ∀ c ∈ cs, p c = true) (h : Breaks rest) : (cs ++ rest).takeWhile p = cs := by
  rw [List.takeWhile_append_of_pos hcs, h.takeWhile hp, List.append_nil]

theorem Breaks.ne_cons {d : Char} (h : Breaks rest) (hd : d ∉ breaks) :
    ∀ ds, rest = d :: ds → False := by
  rintro ds rfl
  obtain h | ⟨c, es, hcs, hc⟩ := h
  · cases h
  · cases hcs
    exact hd hc

theorem isNamePart_breaks : ∀ c ∈ breaks, isNamePart c = false := by
  have hall : breaks.all (fun c => !isNamePart c) = true := by decide
  simpa using hall

theorem isAsciiDigit_breaks : ∀ c ∈ breaks, isAsciiDigit c = false := by
  have hall : breaks.all (fun c => !isAsciiDigit c) = true := by decide
  simpa using hall

theorem mark?_spelling {m : Mark} (hm : m ≠ .underscore)
    (h : (Token.mark m).standsAlone = false → Breaks rest) :
    mark? (m.spelling.toList ++ rest) = some (m, m.spelling.toList.length) := by
  cases halone : (Token.mark m).standsAlone with
  | true => cases m <;> first | rfl | cases halone
  | false =>
    -- Some marks begin others, but these do not go on with what breaks a word off.
    obtain rfl | ⟨c, ds, rfl, hc⟩ := h halone
    · cases m <;> first | rfl | exact absurd rfl hm
    · simp only [breaks, List.mem_cons, List.not_mem_nil, or_false] at hc
      cases m <;> first
        | exact absurd rfl hm
        | rcases hc with rfl | rfl | rfl | rfl | rfl | rfl | rfl | rfl <;> rfl

theorem isAsciiDigit_cases {c : Char} (h : isAsciiDigit c = true) : c ∈ "0123456789".toList := by
  simp only [isAsciiDigit, Bool.and_eq_true, decide_eq_true_eq, Char.le_def, UInt32.le_iff_toNat_le] at h
  have hcodes : ∀ n < 58, 48 ≤ n → Char.ofNat n ∈ "0123456789".toList := by decide
  have hlow : 48 ≤ c.toNat := h.1
  have hhigh : c.toNat ≤ 57 := h.2
  have hmem := hcodes c.toNat (Nat.lt_succ_of_le hhigh) hlow
  rwa [Char.ofNat_toNat] at hmem

/-- What begins with a digit is read as a number. -/
theorem front_of_digit {c : Char} (hc : isAsciiDigit c = true) (cs : List Char) : front (c :: cs) =
    .token (.number (String.ofList ((c :: cs).take (numberLength (c :: cs))))) (numberLength (c :: cs)) := by
  have hstart : mark? (c :: cs) = none ∧ c ≠ '"' ∧ c ≠ '\'' ∧ isNameStart c = false := by
    have hcases := isAsciiDigit_cases hc
    simp only [String.reduceToList, List.mem_cons, List.not_mem_nil, or_false] at hcases
    rcases hcases with rfl | rfl | rfl | rfl | rfl | rfl | rfl | rfl | rfl | rfl <;>
      exact ⟨rfl, by decide⟩
  obtain ⟨hmark, hquote, hsingle, hname⟩ := hstart
  unfold front
  simp only [hmark, if_neg hquote, if_neg hsingle, hname, Bool.false_eq_true, if_false, if_pos hc]

theorem AreDigits.digitRun_append {ds : List Char} (h : AreDigits ds)
    (hrest : rest.takeWhile isAsciiDigit = []) : digitRun (ds ++ rest) = ds.length := by
  rw [digitRun, (h.span hrest).1]

/-- What begins with an exponent and breaks off behind it, or breaks off at once, goes on with no digit. -/
theorem IsExponent.takeWhile_append {exponent : List Char} (he : IsExponent exponent) (h : Breaks rest) :
    (exponent ++ rest).takeWhile isAsciiDigit = [] := by
  rcases he with rfl | ⟨letter, sign, ds, rfl, rfl | rfl, -⟩
  · exact h.takeWhile isAsciiDigit_breaks
  · rfl
  · rfl

/-- Nor does it go on with a point. -/
theorem IsExponent.fractionLength_append {exponent : List Char} (he : IsExponent exponent) (h : Breaks rest) :
    fractionLength (exponent ++ rest) = 0 := by
  rcases he with rfl | ⟨letter, sign, ds, rfl, rfl | rfl, -⟩
  · rw [List.nil_append, fractionLength]
    exact h.ne_cons (by decide)
  · rfl
  · rfl

theorem IsExponent.exponentLength_append {exponent : List Char} (he : IsExponent exponent) (h : Breaks rest) :
    exponentLength (exponent ++ rest) = exponent.length := by
  rcases he with rfl | ⟨letter, sign, ds, rfl, hletter, hsign, hne, hds⟩
  · obtain rfl | ⟨c, cs, rfl, hc⟩ := h
    · rfl
    · have hnone : ¬ (c = 'e' ∨ c = 'E') := by
        rintro (rfl | rfl) <;> exact absurd hc (by decide)
      simp [exponentLength, hnone]
  · have hrun : digitRun (ds ++ rest) = ds.length := hds.digitRun_append (h.takeWhile isAsciiDigit_breaks)
    have hpos : ds.length ≠ 0 := by simpa using hne
    obtain ⟨d, ds, rfl⟩ := List.exists_cons_of_ne_nil hne
    -- A digit is no sign, so an exponent without one begins with its digits.
    have hdigit : isAsciiDigit d = true := hds d List.mem_cons_self
    have hlength : signLength (sign ++ (d :: ds ++ rest)) = sign.length := by
      rcases hsign with rfl | rfl | rfl
      · show signLength (d :: (ds ++ rest)) = 0
        rw [signLength]
        · rintro es ⟨⟩
          exact absurd hdigit (by decide)
        · rintro es ⟨⟩
          exact absurd hdigit (by decide)
      · rfl
      · rfl
    rw [List.cons_append, List.append_assoc, exponentLength_cons hletter, hlength, List.drop_left, hrun,
      if_neg hpos]
    simp only [List.length_cons, List.length_append]
    omega

/-- A number is read up to what breaks it off. -/
theorem front_number {cs : List Char} (hcs : IsNumber cs) (h : Breaks rest) :
    front (cs ++ rest) = .token (.number (String.ofList cs)) cs.length := by
  obtain ⟨whole, fraction, exponent, rfl, hne, hwhole, hfraction, hexponent⟩ := hcs
  -- The three parts are read one after the other, and each ends where the next one begins.
  have hbehind : (fraction ++ (exponent ++ rest)).takeWhile isAsciiDigit = [] ∧
      fractionLength (fraction ++ (exponent ++ rest)) = fraction.length := by
    rcases hfraction with rfl | ⟨ds, rfl, hds, hdigits⟩
    · exact ⟨hexponent.takeWhile_append h, hexponent.fractionLength_append h⟩
    · have hrun := hdigits.digitRun_append (hexponent.takeWhile_append h)
      have hpos : ds.length ≠ 0 := by simpa using hds
      refine ⟨rfl, ?_⟩
      rw [List.cons_append, fractionLength, hrun, if_neg hpos, List.length_cons]
  have hlength : numberLength (whole ++ (fraction ++ (exponent ++ rest))) =
      (whole ++ (fraction ++ exponent)).length := by
    simp only [numberLength, hwhole.digitRun_append hbehind.1, List.drop_left, hbehind.2, ← List.drop_drop,
      hexponent.exponentLength_append h, List.length_append, Nat.add_assoc]
  obtain ⟨c, whole, rfl⟩ := List.exists_cons_of_ne_nil hne
  have hdigit : isAsciiDigit c = true := hwhole c List.mem_cons_self
  have hfront := front_of_digit hdigit (whole ++ (fraction ++ (exponent ++ rest)))
  rw [← List.cons_append, hlength] at hfront
  rw [← List.append_assoc fraction, ← List.append_assoc] at hfront
  rwa [List.take_left] at hfront

/-- Digits are read up to what breaks them off. -/
theorem front_digits {ds : List Char} (hne : ds ≠ []) (hds : AreDigits ds)
    (h : Breaks rest) : front (ds ++ rest) = .token (.number (String.ofList ds)) ds.length :=
  front_number (isNumber_of_digits hne hds) h

/-- Marks do not begin names. -/
theorem mark?_of_isNameStart {c : Char} (hc : isNameStart c = true) (cs : List Char) :
    mark? (c :: cs) = none := by
  unfold mark?
  split <;> first
    | rfl
    | next h =>
      obtain ⟨rfl, -⟩ := List.cons.inj h
      exact absurd hc (by decide)

/-- A letter or an underscore, and letters, digits and underscores. -/
def IsWord (cs : List Char) : Prop :=
  ∃ c ds, cs = c :: ds ∧ isNameStart c = true ∧ ∀ d ∈ ds, isNamePart d = true

/-- Names and keywords are read up to what breaks them off. -/
theorem front_word {cs : List Char} (hcs : IsWord cs) (h : Breaks rest) :
    front (cs ++ rest) = .token (wordToken cs) cs.length := by
  obtain ⟨c, ds, rfl, hc, hds⟩ := hcs
  have hquote : c ≠ '"' := by
    rintro rfl
    exact absurd hc (by decide)
  have hsingle : c ≠ '\'' := by
    rintro rfl
    exact absurd hc (by decide)
  rw [List.cons_append]
  unfold front
  simp only [mark?_of_isNameStart hc, if_neg hquote, if_neg hsingle, if_pos hc,
    h.takeWhile_append isNamePart_breaks hds]

/-- There is no gap before names and keywords. -/
theorem gap_word {cs : List Char} (hcs : IsWord cs) (rest : List Char) : gap (cs ++ rest) = .clear 0 := by
  obtain ⟨c, ds, rfl, hc, -⟩ := hcs
  exact gap_of_isNameStart hc _

theorem isWord_spelling (k : Keyword) : IsWord k.spelling.toList := by
  have hparts : k.spelling.toList.tail.all isNamePart = true := by
    cases k <;> decide
  have hstart : ∃ c cs, k.spelling.toList = c :: cs ∧ isNameStart c = true := by
    cases k <;> exact ⟨_, _, rfl, by decide⟩
  obtain ⟨c, cs, hcs, hc⟩ := hstart
  rw [hcs] at hparts
  exact ⟨c, cs, hcs, hc, List.all_eq_true.1 hparts⟩

/-- Keywords are read as the words that they are. -/
theorem front_keyword (k : Keyword) (h : Breaks rest) :
    front (k.spelling.toList ++ rest) = .token (.keyword k) k.spelling.toList.length := by
  have hword : wordToken k.spelling.toList = .keyword k := by
    cases k <;> decide
  rw [← hword]
  exact front_word (isWord_spelling k) h

/-- A text in quotes is read up to the first quote that is not doubled. -/
theorem quotedText?_doubled (content : List Char) (h : ∀ ds, rest = '"' :: ds → False) :
    quotedText? (doubled content ++ '"' :: rest) = some (content, (doubled content).length + 1) := by
  induction content with
  | nil =>
    rw [doubled, List.nil_append, quotedText?]
    · rfl
    · exact h
  | cons c cs ih =>
    rw [doubled]
    by_cases hc : c = '"'
    · rw [if_pos hc, List.cons_append, List.cons_append, quotedText?, ih, hc]
      rfl
    · rw [if_neg hc, List.cons_append, quotedText?, ih]
      · rfl
      · exact fun _ hquote => absurd hquote hc
      · exact hc

/-- A name in quotes is read up to the next quote. -/
theorem quotedName?_append_quote {name : List Char} (h : '\'' ∉ name) (rest : List Char) :
    quotedName? (name ++ '\'' :: rest) = some (name, name.length + 1) := by
  induction name with
  | nil => rfl
  | cons c cs ih =>
    rw [List.cons_append, quotedName?, ih (List.not_mem_of_not_mem_cons h)]
    · rfl
    · exact Ne.symm (List.ne_of_not_mem_cons h)

theorem front_mark {cs : List Char} {m : Mark} {n : Nat} (h : mark? cs = some (m, n)) :
    front cs = .token (.mark m) n := by
  cases cs with
  | nil => cases h
  | cons c cs => simp only [front, h]

theorem front_quotedText {cs content : List Char} {n : Nat} (h : quotedText? cs = some (content, n)) :
    front ('"' :: cs) = .token (.string (String.ofList content)) (n + 1) := by
  have hmark : mark? ('"' :: cs) = none := rfl
  simp only [front, hmark, if_true, h]

theorem front_quotedName {cs name : List Char} {n : Nat} (h : quotedName? cs = some (name, n)) :
    front ('\'' :: cs) = .token (.identifier (String.ofList name)) (n + 1) := by
  have hmark : mark? ('\'' :: cs) = none := rfl
  have hne : '\'' ≠ '"' := by decide
  simp only [front, hmark, if_neg hne, if_true, h]

/-- A word that is written is read again. -/
theorem front_source {w : Token} (hw : w.Writable) (h : w.standsAlone = false → Breaks rest) :
    front (w.source ++ rest) = .token w w.source.length := by
  cases hw with
  | @identifier name hname =>
    have hread := front_quotedName (quotedName?_append_quote hname rest)
    rw [String.ofList_toList] at hread
    simpa [Token.source] using hread
  | number hne hds =>
    have hread := front_digits hne hds (h rfl)
    rwa [String.ofList_toList] at hread
  | string content =>
    have hread := front_quotedText (quotedText?_doubled content.toList ((h rfl).ne_cons (by decide)))
    rw [String.ofList_toList] at hread
    simpa [Token.source] using hread
  | keyword k => exact front_keyword k (h rfl)
  | mark m =>
    by_cases hm : m = .underscore
    · subst hm
      show front (['_'] ++ rest) = .token (wordToken ['_']) 1
      exact front_word ⟨'_', [], rfl, by decide, nofun⟩ (h rfl)
    · exact front_mark (mark?_spelling hm h)

theorem isBlank_of_isAsciiDigit {c : Char} (hc : isAsciiDigit c = true) : c ≠ '/' ∧ isBlank c = false := by
  have hall : "0123456789".toList.all (fun c => c != '/' && !isBlank c) = true := by decide
  simpa using List.all_eq_true.1 hall c (isAsciiDigit_cases hc)

/-- There is no gap before a word that is written. -/
theorem gap_source {w : Token} (hw : w.Writable) (h : w.standsAlone = false → Breaks rest) :
    gap (w.source ++ rest) = .clear 0 := by
  by_cases hslash : w = .mark .slash
  · subst hslash
    -- Only another slash or a star would make it open a comment.
    have hline := (h rfl).ne_cons (d := '/') (by decide)
    have hblock := (h rfl).ne_cons (d := '*') (by decide)
    exact (gap_cons (fun ds _ => hline ds) (fun ds _ => hblock ds)).trans (if_neg (by decide))
  · obtain ⟨c, cs, hsource, hne, hblank⟩ : ∃ c cs, w.source = c :: cs ∧ c ≠ '/' ∧
        isBlank c = false := by
      cases hw with
      | identifier | string => exact ⟨_, _, rfl, by decide⟩
      | @number digits hne hds =>
        obtain ⟨c, cs, hcs⟩ := List.exists_cons_of_ne_nil hne
        exact ⟨c, cs, hcs, isBlank_of_isAsciiDigit (hds c (hcs ▸ List.mem_cons_self))⟩
      | keyword k => cases k <;> exact ⟨_, _, rfl, by decide⟩
      | mark m =>
        cases m <;> first
          | exact absurd rfl hslash
          | exact ⟨_, _, rfl, by decide⟩
    rw [hsource, List.cons_append]
    exact gap_of_not_blank hne hblank _

end

/-! ### Reading layouts again -/

theorem isBlank_of_isAsciiBlank {c : Char} (h : isAsciiBlank c = true) : isBlank c = true ∧ c ≠ '/' := by
  simp only [isAsciiBlank, Bool.or_eq_true, beq_iff_eq, or_assoc] at h
  rcases h with rfl | rfl | rfl | rfl | rfl <;> decide

/-- A blank is passed over. -/
theorem Cursor.tokens_blank {c : Char} (hc : isAsciiBlank c = true) (cs : List Char) (p : Position) :
    (Cursor.mk (c :: cs) p).tokens = (Cursor.mk cs (p.step c)).tokens := by
  obtain ⟨hblank, hne⟩ := isBlank_of_isAsciiBlank hc
  have hgap : gap ([c] ++ cs) = (gap cs).behind 1 := by
    rw [List.singleton_append, gap_cons_of_ne hne, if_pos hblank]
  have hnext : (Cursor.mk (c :: cs) p).next = (Cursor.mk cs (p.step c)).next := next_of_gap hgap p
  rw [tokens_eq, hnext, ← tokens_eq]

/-- A word is the token in front of those behind it. -/
theorem Cursor.tokens_word {w cs : List Char} {t : Token} (hgap : gap (w ++ cs) = .clear 0)
    (hfront : front (w ++ cs) = .token t w.length) (p : Position) :
    (Cursor.mk (w ++ cs) p).tokens = (Cursor.mk cs (p.after w)).tokens.map (⟨t, p, p.after w⟩ :: ·) := by
  have hnext := next_token (c := ⟨w ++ cs, p⟩) hgap hfront
  have hskip : ((Cursor.mk (w ++ cs) p).skip 0).skip w.length = ⟨cs, p.after w⟩ :=
    skip_length_add w cs 0 p
  rw [hskip] at hnext
  exact tokens_cons hnext (front_ne_endOfInput hfront)

namespace Layout

variable {ws : List Token} {cs : List Char}

/-- The tokens of a layout, wherever it stands. -/
theorem tokens (h : Layout ws cs) (p : Position) : ∃ ts, (Cursor.mk cs p).tokens = .ok ts ∧
    ts.map PlacedToken.token = ws ++ [.endOfInput] := by
  induction h generalizing p with
  | done => exact ⟨_, Cursor.tokens_nil, rfl⟩
  | @blank ws cs c hc _ ih =>
    obtain ⟨ts, hts, hwords⟩ := ih (p.step c)
    exact ⟨ts, (Cursor.tokens_blank hc cs p).trans hts, hwords⟩
  | @word w ws cs hw _ hcs ih =>
    obtain ⟨ts, hts, hwords⟩ := ih (p.after w.source)
    have hfront := front_source hw hcs
    refine ⟨_, (Cursor.tokens_word (gap_source hw hcs) hfront p).trans (congrArg _ hts), ?_⟩
    rw [List.map_cons, hwords, List.cons_append]

theorem tokenize (h : Layout ws cs) : ∃ ts, tokenize (String.ofList cs) = .ok ts ∧
    ts.map PlacedToken.token = ws ++ [.endOfInput] := by
  have htokens := h.tokens .start
  rwa [← String.toList_ofList (l := cs)] at htokens

end Layout

/-! ### Single spaces -/

/-- Words with single spaces between them. -/
def spaced : List Token → List Char
  | [] => []
  | [w] => w.source
  | w :: v :: ws => w.source ++ ' ' :: spaced (v :: ws)

theorem layout_spaced {ws : List Token} (h : ∀ w ∈ ws, w.Writable) : Layout ws (spaced ws) := by
  fun_induction spaced ws with
  | case1 => exact .done
  | case2 w =>
    have hlast := Layout.word (h w List.mem_cons_self) .done fun _ => .inl rfl
    rwa [List.append_nil] at hlast
  | case3 w v ws ih =>
    obtain ⟨hw, hws⟩ := List.forall_mem_cons.1 h
    exact .word hw (.blank (by decide) (ih hws)) fun _ => .inr ⟨' ', _, rfl, by decide⟩

end AssignScript
