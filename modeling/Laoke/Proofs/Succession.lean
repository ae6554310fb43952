import Laoke.Proofs.Recognition

/-!
# Programs one after the other

A statement is over at its last token, whatever stands behind it.  So tokens that
are a program may stand before any others: the statements of the others come
next, and what is wrong with them is wrong with both together, only further back.

* `ParseError.at_add`: an error counts the tokens in front of it.
* `Spells.ofTokens_append`: reading goes on behind statements that are spelled
  out as if it had begun there.
* `ofTokens_append_eq`: so a program is read before anything else.
-/

namespace Laoke

/-- An error further back by some tokens.  That the tokens ended is not said of any place. -/
def ParseError.moved (n : Nat) : ParseError → ParseError
  | .unexpectedToken wanted found position => .unexpectedToken wanted found (position + n)
  | .unexpectedEnd wanted => .unexpectedEnd wanted

/-- **An error keeps its token** when more tokens stand in front, and counts them. -/
theorem ParseError.at_add (wanted : Expectation) {rest : List Token} {total : Nat}
    (h : rest.length ≤ total) (n : Nat) :
    ParseError.at (n + total) wanted rest = (ParseError.at total wanted rest).moved n := by
  cases rest with
  | nil => rfl
  | cons found tail =>
    have hposition : n + total - (tail.length + 1) = total - (tail.length + 1) + n := by
      rw [List.length_cons] at h
      omega
    rw [ParseError.at, ParseError.at, ParseError.moved, hposition]

/-- **Reading goes on behind what is spelled out.** -/
theorem Spells.ofTokens_append {front : List Token} {p : Program} (h : Spells front p)
    (more : List Token) :
    Program.ofTokens (front ++ more) =
      ((Program.ofTokens more).map (p ++ ·)).mapError (ParseError.moved front.length) := by
  have hread := Reader.statements_append h more
  -- What is left of the second part is no longer than it, so no position is cut off at zero.
  have hleft := (Reader.statements_takesFront more).length_le
  unfold Program.ofTokens
  rw [hread, List.length_append]
  cases hs : Reader.statements more with
  | error wanted rest =>
    rw [hs] at hleft
    have hat := ParseError.at_add wanted hleft front.length
    exact congrArg Except.error hat
  | ok q rest =>
    rw [hs] at hleft
    cases rest with
    | nil => rfl
    | cons t rest =>
      have hat := ParseError.at_add .statement hleft front.length
      exact congrArg Except.error hat

/-- **A program is read before anything else.**  Tokens that follow a program are read as they are on
their own: their statements come after those of the program, a token that is wrong among them is wrong
in the same way, further back by the length of the program, and so they end too early. -/
theorem ofTokens_append_eq {tokens : List Token} {p : Program}
    (h : Program.ofTokens tokens = .ok p) (more : List Token) :
    Program.ofTokens (tokens ++ more) =
      match Program.ofTokens more with
      | .ok q => .ok (p ++ q)
      | .error (.unexpectedToken wanted found position) =>
        .error (.unexpectedToken wanted found (position + tokens.length))
      | .error (.unexpectedEnd wanted) => .error (.unexpectedEnd wanted) := by
  have hspells := Program.spells_of_ofTokens h
  rw [hspells.ofTokens_append more]
  cases Program.ofTokens more with
  | ok q => rfl
  | error e =>
    cases e with
    | unexpectedToken wanted found position => rfl
    | unexpectedEnd wanted => rfl

/-- A loop of ten tokens before a statement, before one whose string is not closed, and before one
that breaks off. -/
theorem ofTokens_append_eq_after_loop :
    let loop : List Token := [.identifier "甲", .keyword .startingAt, .integer 1, .keyword .upTo,
      .integer 2, .keyword .loop, .identifier "乙", .keyword .increment, .keyword .period,
      .keyword .endLoop]
    Program.ofTokens (loop ++ [.keyword .say, .keyword .colon, .keyword .openQuote, .string "嗨",
        .keyword .closeQuote, .identifier "乙", .keyword .period]) =
      .ok [.loop "甲" [.integer 1] [.integer 2] [.increase "乙" .one],
        .say [.string "嗨", .identifier "乙"]] ∧
    Program.ofTokens (loop ++ [.keyword .say, .keyword .colon, .keyword .openQuote, .string "嗨",
        .keyword .period]) =
      .error (.unexpectedToken (.keyword .closeQuote) (.keyword .period) 14) ∧
    Program.ofTokens (loop ++ [.keyword .say, .keyword .colon, .keyword .openQuote]) =
      .error (.unexpectedEnd (.kind .string)) := by
  intro loop
  have hloop : Program.ofTokens loop =
      .ok [.loop "甲" [.integer 1] [.integer 2] [.increase "乙" .one]] := by
    with_unfolding_all rfl
  have hsay : Program.ofTokens [.keyword .say, .keyword .colon, .keyword .openQuote, .string "嗨",
      .keyword .closeQuote, .identifier "乙", .keyword .period] =
        .ok [.say [.string "嗨", .identifier "乙"]] := by
    with_unfolding_all rfl
  have hbad : Program.ofTokens [.keyword .say, .keyword .colon, .keyword .openQuote, .string "嗨",
      .keyword .period] = .error (.unexpectedToken (.keyword .closeQuote) (.keyword .period) 4) := by
    with_unfolding_all rfl
  have hend : Program.ofTokens [.keyword .say, .keyword .colon, .keyword .openQuote] =
      .error (.unexpectedEnd (.kind .string)) := by
    with_unfolding_all rfl
  refine ⟨?_, ?_, ?_⟩
  · rw [ofTokens_append_eq hloop, hsay]
    rfl
  · rw [ofTokens_append_eq hloop, hbad]
    rfl
  · rw [ofTokens_append_eq hloop, hend]

end Laoke
