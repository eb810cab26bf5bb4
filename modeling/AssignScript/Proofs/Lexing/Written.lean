import Mathlib.Data.List.Forall2
import AssignScript.Proofs.Lexing.Layout

/-!
# Printing words

Any list of words can be written with single spaces between them, names in single quotes or bare. The scanner
finds the same list again, whatever the words next to each other are.

## Main definitions

* `Token.Printable`: the words that can be written;
* `Token.Written`: what a word is written as.

## Main statements

* `front_written`: a word that is written is read again;
* `tokenize_written`: the words of a printed list are the list.
-/

namespace AssignScript

open Text

/-! ### Writing words -/

namespace Token

/-- Names without single quotes, numbers, texts, keywords and marks. -/
inductive Printable : Token → Prop where
  | identifier {name : String} (h : '\'' ∉ name.toList) : Printable (.identifier name)
  | number {digits : String} (h : IsNumber digits.toList) : Printable (.number digits)
  | string (content : String) : Printable (.string content)
  | keyword (k : Keyword) : Printable (.keyword k)
  | mark (m : Mark) : Printable (.mark m)

/-- What a word is written as. A name that is no keyword in any case stands in quotes or bare; a keyword stands in
    any case. -/
inductive Written : Token → List Char → Prop where
  | quoted {name : String} (h : '\'' ∉ name.toList) :
    Written (.identifier name) ('\'' :: (name.toList ++ ['\'']))
  | bare {name : String} (hword : IsWord name.toList) (hunderscore : name ≠ "_")
    (hkeyword : ∀ k : Keyword, Text.toLower name ≠ k.spelling) :
    Written (.identifier name) name.toList
  | number {digits : String} (h : IsNumber digits.toList) : Written (.number digits) digits.toList
  | string (content : String) : Written (.string content) ('"' :: (doubled content.toList ++ ['"']))
  | keyword {k : Keyword} {word : String} (hword : IsWord word.toList)
    (hkeyword : Text.toLower word = k.spelling) : Written (.keyword k) word.toList
  | mark (m : Mark) : Written (.mark m) m.spelling.toList

end Token

theorem toLower_spelling (k : Keyword) : Text.toLower k.spelling = k.spelling := by
  cases k <;> decide

/-- Every word that can be written is written in some way. -/
theorem Token.Printable.exists_written {w : Token} (h : w.Printable) : ∃ cs, w.Written cs := by
  cases h with
  | identifier hname => exact ⟨_, .quoted hname⟩
  | number hnumber => exact ⟨_, .number hnumber⟩
  | string content => exact ⟨_, .string content⟩
  | keyword k => exact ⟨_, .keyword (isWord_spelling k) (toLower_spelling k)⟩
  | mark m => exact ⟨_, .mark m⟩

/-! ### Reading words again -/

section

variable {rest : List Char}

theorem Keyword.ofWord?_eq_none {word : String} (h : ∀ k : Keyword, Text.toLower word ≠ k.spelling) :
    Keyword.ofWord? word = none := by
  apply List.find?_eq_none.2
  intro k _ hk
  exact h k (beq_iff_eq.1 hk).symm

theorem Keyword.ofWord?_eq_some {word : String} {k : Keyword} (h : Text.toLower word = k.spelling) :
    Keyword.ofWord? word = some k := by
  have hspells : ∀ l : Keyword, (l.spelling == Text.toLower word) = (l.spelling == k.spelling) := by
    intro l
    rw [h]
  unfold Keyword.ofWord?
  simp only [hspells]
  cases k <;> rfl

theorem wordToken_identifier {name : String} (hunderscore : name ≠ "_")
    (hkeyword : ∀ k : Keyword, Text.toLower name ≠ k.spelling) :
    wordToken name.toList = .identifier name := by
  have hne : name.toList ≠ ['_'] := fun h => hunderscore (String.toList_inj.1 h)
  unfold wordToken
  simp only [if_neg hne, String.ofList_toList, Keyword.ofWord?_eq_none hkeyword]

theorem wordToken_keyword {word : String} {k : Keyword} (h : Text.toLower word = k.spelling) :
    wordToken word.toList = .keyword k := by
  have hne : word.toList ≠ ['_'] := by
    intro hunderscore
    rw [show word = "_" from String.toList_inj.1 hunderscore] at h
    exact absurd h (by cases k <;> decide)
  unfold wordToken
  simp only [if_neg hne, String.ofList_toList, Keyword.ofWord?_eq_some h]

/-- A word that is written is read again. -/
theorem front_written {w : Token} {cs : List Char} (hw : w.Written cs) (h : Breaks rest) :
    front (cs ++ rest) = .token w cs.length := by
  cases hw with
  | quoted hname => exact front_source (.identifier hname) fun _ => h
  | bare hword hunderscore hkeyword =>
    rw [← wordToken_identifier hunderscore hkeyword]
    exact front_word hword h
  | number hnumber =>
    have hread := front_number hnumber h
    rwa [String.ofList_toList] at hread
  | string content => exact front_source (.string content) fun _ => h
  | keyword hword hkeyword =>
    rw [← wordToken_keyword hkeyword]
    exact front_word hword h
  | mark m => exact front_source (.mark m) fun _ => h

/-- There is no gap before a word that is written. -/
theorem gap_written {w : Token} {cs : List Char} (hw : w.Written cs) (h : Breaks rest) :
    gap (cs ++ rest) = .clear 0 := by
  cases hw with
  | quoted hname => exact gap_source (.identifier hname) fun _ => h
  | bare hword => exact gap_word hword _
  | @number digits hnumber =>
    obtain ⟨whole, fraction, exponent, hdigits, hne, hwhole, -⟩ := hnumber
    obtain ⟨c, ds, rfl⟩ := List.exists_cons_of_ne_nil hne
    obtain ⟨hslash, hblank⟩ := isBlank_of_isAsciiDigit (hwhole c List.mem_cons_self)
    rw [hdigits]
    exact gap_of_not_blank hslash hblank _
  | string content => exact gap_source (.string content) fun _ => h
  | keyword hword => exact gap_word hword _
  | mark m => exact gap_source (.mark m) fun _ => h

end

/-! ### Reading lists again -/

/-- Words with single spaces between them are read one after the other, wherever they stand. -/
theorem Cursor.tokens_written {ws : List Token} {pieces : List (List Char)}
    (h : List.Forall₂ Token.Written ws pieces) (p : Position) :
    ∃ ts, (Cursor.mk ([' '].intercalate pieces) p).tokens = .ok ts ∧
      ts.map PlacedToken.token = ws ++ [.endOfInput] := by
  induction h generalizing p with
  | nil => exact ⟨_, Cursor.tokens_nil, rfl⟩
  | @cons w piece ws pieces hw hrest ih =>
    cases hrest with
    | nil =>
      have hend : Breaks [] := .inl rfl
      have htokens := tokens_word (gap_written hw hend) (front_written hw hend) p
      rw [List.append_nil] at htokens
      rw [List.intercalate_singleton, htokens, Cursor.tokens_nil]
      exact ⟨_, rfl, rfl⟩
    | @cons v piece' vs pieces hv hvs =>
      -- The space behind the word ends it, and is passed over in front of the next one.
      have hspace : Breaks (' ' :: [' '].intercalate (piece' :: pieces)) := .inr ⟨' ', _, rfl, by decide⟩
      obtain ⟨ts, hts, hwords⟩ := ih ((p.after piece).step ' ')
      have htokens := tokens_word (gap_written hw hspace) (front_written hw hspace) p
      rw [tokens_blank (by decide), hts] at htokens
      rw [List.intercalate_cons_cons, List.append_assoc, List.singleton_append, htokens]
      refine ⟨_, rfl, ?_⟩
      rw [List.map_cons, hwords]
      rfl

/-- Words that can be written are written in some way, and are read again whichever way they are written. -/
theorem tokenize_written {ws : List Token} (h : ∀ w ∈ ws, w.Printable) :
    (∃ pieces, List.Forall₂ Token.Written ws pieces) ∧
      ∀ pieces, List.Forall₂ Token.Written ws pieces →
        ∃ ts, tokenize (String.ofList ([' '].intercalate pieces)) = .ok ts ∧
          ts.map PlacedToken.token = ws ++ [.endOfInput] := by
  constructor
  · induction ws with
    | nil => exact ⟨[], .nil⟩
    | cons w ws ih =>
      obtain ⟨hw, hws⟩ := List.forall_mem_cons.1 h
      obtain ⟨piece, hpiece⟩ := hw.exists_written
      obtain ⟨pieces, hpieces⟩ := ih hws
      exact ⟨piece :: pieces, .cons hpiece hpieces⟩
  · intro pieces hpieces
    have htokens := Cursor.tokens_written hpieces .start
    rwa [← String.toList_ofList (l := [' '].intercalate pieces)] at htokens

/-- Marks next to each other open no comment, and a bare name next to a number is no exponent. -/
theorem tokenize_written_marks : ∃ ts,
    tokenize "'a b' / * 2.5E-2 e1 Not \"\"\"\" _" = .ok ts ∧
      ts.map PlacedToken.token = [.identifier "a b", .mark .slash, .mark .star, .number "2.5E-2",
        .identifier "e1", .keyword .not, .string "\"", .mark .underscore, .endOfInput] := by
  have hname : Token.Written (.identifier "a b") "'a b'".toList := .quoted (by decide)
  have hslash : Token.Written (.mark .slash) "/".toList := .mark .slash
  have hstar : Token.Written (.mark .star) "*".toList := .mark .star
  have hdigits : ∀ c ∈ ['2', '5'], AreDigits [c] := by
    intro c hc
    rw [AreDigits, List.forall_mem_singleton]
    exact List.all_eq_true.1 (by decide : ['2', '5'].all isAsciiDigit = true) c hc
  have hnumber : IsNumber "2.5E-2".toList :=
    ⟨['2'], ['.', '5'], ['E', '-', '2'], rfl, by decide, hdigits '2' (by decide),
      .inr ⟨['5'], rfl, by decide, hdigits '5' (by decide)⟩,
      .inr ⟨'E', ['-'], ['2'], rfl, .inr rfl, .inr (.inr rfl), by decide, hdigits '2' (by decide)⟩⟩
  have hbare : Token.Written (.identifier "e1") "e1".toList := by
    apply Token.Written.bare
    · exact ⟨'e', ['1'], rfl, by decide, List.all_eq_true.1 (by decide)⟩
    · decide
    · intro k
      cases k <;> decide
  have hnot : Token.Written (.keyword .not) "Not".toList := by
    apply Token.Written.keyword
    · exact ⟨'N', ['o', 't'], rfl, by decide, List.all_eq_true.1 (by decide)⟩
    · decide
  have hquote : Token.Written (.string "\"") "\"\"\"\"".toList := .string "\""
  have hunderscore : Token.Written (.mark .underscore) "_".toList := .mark .underscore
  have hprintable : ∀ w ∈ [Token.identifier "a b", .mark .slash, .mark .star, .number "2.5E-2",
      .identifier "e1", .keyword .not, .string "\"", .mark .underscore], w.Printable := by
    simp only [List.forall_mem_cons]
    exact ⟨.identifier (by decide), .mark _, .mark _, .number hnumber, .identifier (by decide), .keyword _,
      .string _, .mark _, nofun⟩
  have htext : "'a b' / * 2.5E-2 e1 Not \"\"\"\" _" = String.ofList ([' '].intercalate ["'a b'".toList,
      "/".toList, "*".toList, "2.5E-2".toList, "e1".toList, "Not".toList, "\"\"\"\"".toList, "_".toList]) := rfl
  rw [htext]
  exact (tokenize_written hprintable).2 _ (.cons hname (.cons hslash (.cons hstar (.cons (.number hnumber)
    (.cons hbare (.cons hnot (.cons hquote (.cons hunderscore .nil))))))))

end AssignScript
