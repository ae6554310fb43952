import Laoke.Proofs.Rows

/-!
# Names numbered in the order of the text

A name is numbered when writing a script first meets its identifier, and writing
follows the statements: the variable of a statement before its expressions, the
bounds of a loop before its body.  That is the order of the text.

* `SymbolTable.identifiers_insertAll`: a table holds what it has met, each
  identifier once and in the order in which they came first.
* `Spells.identifiersIn_eq`: the identifiers of a program, in the order in which they
  are met, are those of the tokens that spell it.
* `entries_of_compile`: so the table of a text can be read off its tokens.
-/

namespace Laoke

/-! ### In a table -/

namespace SymbolTable

/-- **A table holds what it has met**, each identifier once, in the order in which they came
first. -/
theorem identifiers_insertAll {t : SymbolTable} {met : List String}
    (h : t.identifiers = met.eraseDups) (xs : List String) :
    (t.insertAll xs).identifiers = (met ++ xs).eraseDups := by
  have hnew : xs.filter (· ∉ t.identifiers) = xs.removeAll met := by
    refine List.filter_congr fun x _ => ?_
    simp [h]
  rw [insertAll_eq, hnew, h, List.eraseDups_append]

end SymbolTable

/-! ### In a text -/

/-- The identifiers among some tokens. -/
def identifiersIn (tokens : List Token) : List String :=
  tokens.filterMap fun
    | .identifier x => some x
    | _ => none

@[simp] theorem identifiersIn_keyword (k : Keyword) (tokens : List Token) :
    identifiersIn (.keyword k :: tokens) = identifiersIn tokens := rfl

@[simp] theorem identifiersIn_identifier (x : String) (tokens : List Token) :
    identifiersIn (.identifier x :: tokens) = x :: identifiersIn tokens := rfl

@[simp] theorem identifiersIn_append (front back : List Token) :
    identifiersIn (front ++ back) = identifiersIn front ++ identifiersIn back :=
  List.filterMap_append

/-- A string between its quotes is no identifier, and hides none. -/
@[simp] theorem identifiersIn_spelling (e : Expression) :
    identifiersIn e.spelling = e.identifiers := by
  induction e with
  | nil => rfl
  | cons t e ih =>
    rw [Expression.spelling_cons, identifiersIn_append, ih]
    cases t <;> rfl

/-- **The identifiers of a program are those of its text**, in the same order. -/
theorem Spells.identifiersIn_eq {tokens : List Token} {p : List Statement} (h : Spells tokens p) :
    identifiersIn tokens = Program.identifiers p := by
  induction h with
  | nil => rfl
  | say _ _ ih => simp [Program.identifiers, Statement.identifiers, ih]
  | declare _ ih => simp [Program.identifiers, Statement.identifiers, ih]
  | assign _ _ ih => simp [Program.identifiers, Statement.identifiers, ih]
  | increment _ ih | decrement _ ih =>
    have hone : Expression.identifiers .one = [] := rfl
    simp [Program.identifiers, Statement.identifiers, hone, ih]
  | increase _ _ ih | decrease _ _ ih => simp [Program.identifiers, Statement.identifiers, ih]
  | loop _ _ _ _ ihbody ih => simp [Program.identifiers, Statement.identifiers, ihbody, ih]

/-- **Names are numbered in the order of the text.**  The entries of the table are the identifiers
among the tokens, each where it came first, and the number in a name is its place. -/
theorem entries_of_compile {o : ScriptOptions} {source : String} {c : Compiled}
    (h : compile o source = .ok c) :
    tokenize source = .ok c.tokens ∧
      c.table.entries = (identifiersIn c.tokens).eraseDups.zipIdx.map
        fun (x, i) => (x, o.stem ++ i.repr) := by
  obtain ⟨htokens, -⟩ := compile_eq_ok h
  have hmade := wellmade_of_compile h
  have hstem : c.table.stem = o.stem := by
    rw [hmade.table]
    exact (SymbolTable.extends_insertAll _ _).stem
  have hmet : c.table.identifiers = (identifiersIn c.tokens).eraseDups := by
    have hnone : SymbolTable.identifiers { stem := o.stem } = ([] : List String).eraseDups := rfl
    rw [hmade.table, hmade.spells.identifiersIn_eq]
    exact SymbolTable.identifiers_insertAll hnone _
  refine ⟨htokens, ?_⟩
  rw [SymbolTable.entries, hmet]
  simp only [SymbolTable.nameAt, hstem]

/-- A counter, its bounds and a body; a string that reads like an identifier is none. -/
theorem entries_of_compile_loop :
    ∃ c, compile { stem := "v" } "乙从甲到丙磨叽：丁装乙加甲。磨叽完了。唠唠：“己”戊。" = .ok c ∧
      c.table.entries =
        [("乙", "v0"), ("甲", "v1"), ("丙", "v2"), ("丁", "v3"), ("戊", "v4")] := by
  obtain ⟨c, hc, hq⟩ := exists_compiled { stem := "v" }
    "乙从甲到丙磨叽：丁装乙加甲。磨叽完了。唠唠：“己”戊。"
    (fun c => identifiersIn c.tokens == ["乙", "甲", "丙", "丁", "乙", "甲", "戊"])
    (by decide +kernel)
  have hentries := (entries_of_compile hc).2
  rw [eq_of_beq hq] at hentries
  exact ⟨c, hc, hentries.trans (by decide)⟩

end Laoke
