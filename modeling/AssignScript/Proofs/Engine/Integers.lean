import AssignScript.Engine
import AssignScript.Proofs.Evaluation.WholeNumber
import AssignScript.Proofs.Pattern.Fragment
import AssignScript.Proofs.Syntax.Refusal
import AssignScript.Proofs.Syntax.Rendering
import AssignScript.Proofs.Syntax.Reparse

/-!
# Whole numbers that are shown and read back

The text of a whole number is read back as the number: digits as they are, and a sign as an operator on them. The
digits alone must fit 64 bits with a sign, so those of the least number do not, and its text is refused.

## Main statements

* `Engine.evaluate_of_reads`: a text of words that are an expression is evaluated as that expression;
* `Engine.evaluate_digits`, `Engine.evaluate_minus_digits`: texts of digits, without a sign and with one;
* `Engine.evaluate_minus_digits_error`: digits that are refused behind a sign, too;
* `Engine.evaluate_describe_integer`: every whole number but the least is read back from its text.
-/

namespace AssignScript

open AssignScript.Parser Text

/-! ### Digits and their sign as words -/

/-- Digits by themselves are one word. -/
theorem tokenize_digits (m : Nat) : ∃ ts, tokenize m.repr = .ok ts ∧
    ts.map PlacedToken.token = [.number m.repr, .endOfInput] := by
  have hword : Layout [.number m.repr] (m.repr.toList ++ []) :=
    .word (.number (toList_repr_ne_nil m) (areDigits_repr m)) .done fun _ => .inl rfl
  obtain ⟨ts, hts, hwords⟩ := hword.tokenize
  rw [List.append_nil, String.ofList_toList] at hts
  exact ⟨ts, hts, hwords⟩

/-- Digits behind a minus sign are a word behind another. -/
theorem tokenize_minus_digits (m : Nat) : ∃ stop, tokenize ("-" ++ m.repr) =
    .ok [⟨.mark .minus, ⟨1, 1, 0⟩, ⟨1, 2, 1⟩⟩, ⟨.number m.repr, ⟨1, 2, 1⟩, stop⟩, ⟨.endOfInput, stop, stop⟩] := by
  have hend : Breaks [] := .inl rfl
  have hsign : front (['-'] ++ m.repr.toList) = .token (.mark .minus) 1 := front_mark rfl
  have hdigits : front (m.repr.toList ++ []) = .token (.number m.repr) m.repr.toList.length := by
    have hread := front_digits (toList_repr_ne_nil m) (areDigits_repr m) hend
    rwa [String.ofList_toList] at hread
  have hgap : gap (m.repr.toList ++ []) = .clear 0 :=
    gap_source (.number (toList_repr_ne_nil m) (areDigits_repr m)) fun _ => hend
  have hchars : ("-" ++ m.repr).toList = ['-'] ++ (m.repr.toList ++ []) := by
    rw [String.toList_append, List.append_nil]
    rfl
  refine ⟨(Position.start.after ['-']).after m.repr.toList, ?_⟩
  rw [tokenize, hchars, Cursor.ofText, Cursor.tokens_word (gap_of_not_blank (by decide) (by decide) _) ?_,
    Cursor.tokens_word hgap hdigits, Cursor.tokens_nil]
  · rfl
  · rw [List.append_nil]
    exact hsign

/-- Digits write the number that they were made from, if it has 64 bits with a sign. -/
theorem writes_digits {m : Nat} (hm : m < 2 ^ 63) : Writes (.number m.repr) (.integer (.ofInt m)) := by
  rw [Int64.ofInt_eq_ofNat]
  exact (writes_repr hm).1

theorem reads_digits {m : Nat} (hm : m < 2 ^ 63) :
    Reads .lookahead .expression [.number m.repr] (.literal default (.integer (.ofInt m))) [] :=
  Reads.expression_of_signed (.unsigned (.literal default [] (writes_digits hm)))

theorem reads_minus_digits {m : Nat} (hm : m < 2 ^ 63) :
    Reads .lookahead .expression [.mark .minus, .number m.repr]
      (.unary default .minus (.literal default (.integer (.ofInt m)))) [] :=
  Reads.expression_of_signed (.sign default .minus (.unsigned (.literal default [] (writes_digits hm))))

/-! ### Digits of numbers that have too many bits -/

section Refused

variable {nested : Entry → Parser Expr} {s : TokenStream} {err : ParseError} {m : Nat}

theorem fails_numberLiteral_repr (hm : 2 ^ 63 ≤ m) (start : Position) :
    (numberLiteral m.repr start).Fails s (.invalidNumber m.repr start) := by
  have hwhole := (isWhole_iff m.repr).1 (isWhole_repr m)
  have hmax : ¬ ((m : Nat) : Int) ≤ Int64.maxValue.toInt := by
    have hvalue : Int64.maxValue.toInt = 2 ^ 63 - 1 := by decide
    omega
  unfold numberLiteral
  rw [hwhole, digitsValue_repr]
  simp only [Bool.false_eq_true, if_false, if_neg hmax]
  exact fails_throw.2 rfl

theorem fails_primary_digits (hm : 2 ^ 63 ≤ m) {start stop : Position}
    (hs : s.current = ⟨.number m.repr, start, stop⟩) :
    (primary nested).Fails s (.invalidNumber m.repr start) := by
  simp only [primary, monadLift_self]
  rw [fails_here_bind, fails_peek_bind, hs]
  exact fails_skip_bind.2 (fails_bind.2 (.inl (fails_numberLiteral_repr hm start)))

/-- An expression that is no negation fails where its first operand does. -/
theorem fails_disjunctive (hnot : s.current.token ≠ .keyword .not) (h : (signed nested).Fails s err) :
    (disjunctive nested).Fails s err := by
  have hchain : ∀ {operator? : Token → Option BinaryOp} {operand : Parser Expr}, operand.Fails s err →
      (chain operator? operand).Fails s err :=
    fun hoperand => fails_bind.2 (.inl hoperand)
  have hcomparison : (comparison nested).Fails s err := fails_bind.2 (.inl (hchain (hchain h)))
  have hnegated : (negated nested).Fails s err := by
    simp only [negated, monadLift_self]
    rw [fails_peek_bind, if_neg hnot]
    exact hcomparison
  exact hchain (hchain hnegated)

end Refused

namespace Engine

/-- The text of a whole number is its digits, behind a minus sign if it is negative. -/
theorem describe_integer (n : Int64) : (Value.integer n).describe =
    if n.toInt < 0 then "-" ++ n.toInt.natAbs.repr else n.toInt.natAbs.repr := by
  show toString n.toInt = _
  cases n.toInt with
  | ofNat m => rfl
  | negSucc m =>
    rw [if_pos (Int.negSucc_lt_zero m)]
    rfl

section Evaluation

variable [PatternLibrary] {e : Engine} {m : Nat}

/-- A text of words that are an expression is evaluated as that expression. -/
theorem evaluate_of_reads {text : String} {ts : List PlacedToken} {ws : List Token} {x : Expr}
    (hts : tokenize text = .ok ts) (hwords : ts.map PlacedToken.token = ws ++ [.endOfInput])
    (hread : Reads .lookahead .expression ws x []) (hnest : x.nest < e.limit) :
    ∃ x', x'.bare = x.bare ∧ e.evaluate text = checkIn e.limit e.bindings x' >>= evalIn e.bindings.context := by
  obtain ⟨s, hs, hstream⟩ := TokenStream.ofText_eq_ok hts
  obtain ⟨x', s', hyields, hbare⟩ := standalone_finds (hstream.trans hwords) (.inl rfl) hread hnest
  have hrun : readText (.standalone e.limit) text = .ok x' := by
    rw [readText, (runText_eq_ok hs).2 ⟨s', hyields⟩]
    rfl
  refine ⟨x', hbare, ?_⟩
  rw [evaluate, compile, hrun]
  rfl

/-- Digits are evaluated to the number that they were made from. -/
theorem evaluate_digits (hlimit : 1 ≤ e.limit) (hm : m < 2 ^ 63) :
    e.evaluate m.repr = .ok (.integer (.ofInt m)) := by
  obtain ⟨ts, hts, hwords⟩ := tokenize_digits m
  obtain ⟨x, hbare, hvalue⟩ := evaluate_of_reads hts hwords (reads_digits hm) hlimit
  obtain ⟨room, hroom⟩ := Nat.exists_eq_add_of_le' hlimit
  cases x <;> cases hbare
  rw [hvalue, hroom]
  rfl

/-- Digits behind a minus sign are evaluated to the number with that sign. -/
theorem evaluate_minus_digits (hlimit : 2 ≤ e.limit) (hm : m < 2 ^ 63) :
    e.evaluate ("-" ++ m.repr) = .ok (.integer (.ofInt (-m))) := by
  obtain ⟨stop, hts⟩ := tokenize_minus_digits m
  obtain ⟨x, hbare, hvalue⟩ := evaluate_of_reads hts rfl (reads_minus_digits hm) hlimit
  obtain ⟨room, hroom⟩ := Nat.exists_eq_add_of_le' hlimit
  have hnegated : exactInteger UnaryOp.minus.symbol (-(Int64.ofInt m).toInt) = .ok (.integer (.ofInt (-m))) := by
    have hdigits : InRange m := ⟨by omega, by omega⟩
    have hsigned : InRange (-m) := ⟨by omega, by omega⟩
    rw [hdigits.toInt_ofInt, exactInteger_eq, if_pos hsigned]
  -- The tree is a sign in front of digits, whatever the spans are.
  cases x with
  | unary span op operand =>
    obtain ⟨-, rfl, hoperand⟩ := Expr.unary.inj hbare
    cases operand <;> cases hoperand
    rw [hvalue, hroom]
    show (exactInteger UnaryOp.minus.symbol (-(Int64.ofInt m).toInt)).mapError ScriptError.runtime = _
    rw [hnegated]
    rfl
  | _ => cases hbare

/-- Digits of a number that has more than 64 bits with a sign are refused behind a minus sign too, where they start. -/
theorem evaluate_minus_digits_error (hlimit : 2 ≤ e.limit) (hm : 2 ^ 63 ≤ m) :
    e.evaluate ("-" ++ m.repr) = .error (.parse (.invalidNumber m.repr ⟨1, 2, 1⟩)) := by
  obtain ⟨stop, hts⟩ := tokenize_minus_digits m
  obtain ⟨room, hroom⟩ := Nat.exists_eq_add_of_le' hlimit
  obtain ⟨s, hs, hstream, -⟩ := TokenStream.ofText_tokens hts
  obtain ⟨hcurrent, hfollowing⟩ := List.cons.inj hstream
  have hadvance : s.advance.current = ⟨.number m.repr, ⟨1, 2, 1⟩, stop⟩ := by
    rw [TokenStream.advance, hfollowing]
  have hdigits : (primary (enter e.limit room)).Fails s.advance (.invalidNumber m.repr ⟨1, 2, 1⟩) :=
    fails_primary_digits hm hadvance
  have hoperand : (enter e.limit (room + 1) .signed).Fails s.advance (.invalidNumber m.repr ⟨1, 2, 1⟩) := by
    show Fails (peek >>= _) _ _
    rw [fails_peek_bind, hadvance]
    exact hdigits
  have hsigned : (signed (enter e.limit (room + 1))).Fails s (.invalidNumber m.repr ⟨1, 2, 1⟩) := by
    show Fails (peek >>= _) _ _
    rw [fails_peek_bind, hcurrent]
    exact fails_here_bind.2 (fails_skip_bind.2 (fails_bind.2 (.inl hoperand)))
  have hwhole : ∀ levels, levels = room + 2 →
      (enter e.limit levels .expression).Fails s (.invalidNumber m.repr ⟨1, 2, 1⟩) := by
    rintro levels rfl
    exact fails_disjunctive (by rw [hcurrent]; decide) hsigned
  have hread : readText (.standalone e.limit) ("-" ++ m.repr) =
      .error (.parse (.invalidNumber m.repr ⟨1, 2, 1⟩)) := by
    obtain ⟨s', hrun⟩ : (standalone e.limit).Fails s (.invalidNumber m.repr ⟨1, 2, 1⟩) :=
      fails_bind.2 (.inl (hwhole e.limit hroom))
    rw [readText, runText_eq_runOn hs, runOn, hrun]
    rfl
  rw [evaluate, compile, hread]
  rfl

/-- Every whole number but the least is read back from its text, by any engine that lets expressions nest twice. The
    text of the least is refused, since its digits are read before the sign is looked at. -/
theorem evaluate_describe_integer (e : Engine) (hlimit : 2 ≤ e.limit) (n : Int64) :
    e.evaluate (Value.integer n).describe =
      if n = Int64.minValue then .error (.parse (.invalidNumber "9223372036854775808" ⟨1, 2, 1⟩))
      else .ok (.integer n) := by
  by_cases hmin : n = Int64.minValue
  · rw [if_pos hmin, hmin, describe_integer]
    exact evaluate_minus_digits_error hlimit (Nat.le_refl _)
  · have hrange := inRange_toInt n
    have hleast : n.toInt ≠ -2 ^ 63 := by
      intro h
      apply hmin
      rw [← Int64.ofInt_toInt n, h]
      rfl
    have hdigits : n.toInt.natAbs < 2 ^ 63 := by
      obtain ⟨hlow, hhigh⟩ := hrange
      omega
    rw [if_neg hmin, describe_integer]
    by_cases hsign : n.toInt < 0
    · have hvalue : -(n.toInt.natAbs : Int) = n.toInt := by omega
      rw [if_pos hsign, evaluate_minus_digits hlimit hdigits, hvalue, Int64.ofInt_toInt]
    · have hvalue : (n.toInt.natAbs : Int) = n.toInt := by omega
      rw [if_neg hsign, evaluate_digits (Nat.le_of_succ_le hlimit) hdigits, hvalue, Int64.ofInt_toInt]

end Evaluation

open scoped Fragment in
/-- A number below zero is read back with its sign. -/
theorem evaluate_describe_integer_minus_five :
    2 ≤ (⟨2, .empty⟩ : Engine).limit ∧
      (⟨2, .empty⟩ : Engine).evaluate "-5" = .ok (.integer (-5)) := by
  have hlimit : 2 ≤ (⟨2, .empty⟩ : Engine).limit := Nat.le_refl 2
  have hread := evaluate_describe_integer ⟨2, .empty⟩ hlimit (-5)
  have hdescribe : (Value.integer (-5)).describe = "-5" := by decide
  rw [hdescribe, if_neg (by decide)] at hread
  exact ⟨hlimit, hread⟩

open scoped Fragment in
/-- The least whole number is not read back. -/
theorem not_evaluate_describe_minValue :
    ¬ ∀ e : Engine, 2 ≤ e.limit → ∀ n : Int64, e.evaluate (Value.integer n).describe = .ok (.integer n) := by
  intro h
  have hread := h ⟨2, .empty⟩ (Nat.le_refl 2) Int64.minValue
  rw [describe_integer, if_pos (by decide)] at hread
  have hrefused := evaluate_minus_digits_error (e := ⟨2, .empty⟩) (m := 2 ^ 63) (Nat.le_refl 2) (Nat.le_refl _)
  cases hread.symm.trans hrefused

end Engine

end AssignScript
