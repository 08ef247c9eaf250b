/-
# LIKE patterns

A LIKE pattern is read under an escape character: an escaped character stands for itself,
`%` for any text, `_` for any one character, and every other character for itself.
Characters are compared after folding.  Escaping a text and putting `%` behind it gives
the pattern of the texts that begin with it up to folding.
-/
import Mathlib.Data.List.Basic
import Mathlib.Data.List.Infix

namespace LikePattern

inductive Token where
  | literal (c : Char)
  | any
  | many
  deriving DecidableEq

/-- The tokens of a pattern; a pattern that ends in the escape character has none. -/
def tokens (escape : Char) : List Char → Option (List Token)
  | [] => some []
  | c :: rest =>
    if c = escape then
      match rest with
      | [] => none
      | d :: rest => (tokens escape rest).map (.literal d :: ·)
    else if c = '%' then (tokens escape rest).map (.many :: ·)
    else if c = '_' then (tokens escape rest).map (.any :: ·)
    else (tokens escape rest).map (.literal c :: ·)

def matchTokens (fold : Char → Char) : List Token → List Char → Bool
  | [], text => text.isEmpty
  | .many :: rest, text => text.tails.any (matchTokens fold rest)
  | .any :: rest, _ :: text => matchTokens fold rest text
  | .literal c :: rest, d :: text => fold c == fold d && matchTokens fold rest text
  | _ :: _, [] => false

def like (fold : Char → Char) (escape : Char) (pattern text : List Char) : Bool :=
  (tokens escape pattern).any (matchTokens fold · text)

/-- Puts the escape character before itself and before the two wildcards. -/
def quote (escape : Char) (text : List Char) : List Char :=
  text.flatMap fun c => if c = escape ∨ c = '%' ∨ c = '_' then [escape, c] else [c]

variable {fold : Char → Char} {escape : Char}

/-! ## Quoted texts -/

theorem tokens_plain {c : Char} (hescape : c ≠ escape) (hmany : c ≠ '%') (hany : c ≠ '_')
    (rest : List Char) : tokens escape (c :: rest) = (tokens escape rest).map (.literal c :: ·) := by
  conv_lhs => unfold tokens
  rw [if_neg hescape, if_neg hmany, if_neg hany]

theorem tokens_quote (text rest : List Char) :
    tokens escape (quote escape text ++ rest) =
      (tokens escape rest).map (text.map Token.literal ++ ·) := by
  induction text with
  | nil => simp [quote]
  | cons c text ih =>
    have hquote : quote escape (c :: text) ++ rest =
        (if c = escape ∨ c = '%' ∨ c = '_' then [escape, c] else [c]) ++
          (quote escape text ++ rest) := by
      rw [quote, List.flatMap_cons, List.append_assoc]
      rfl
    rw [hquote]
    split
    · simp [tokens, ih, Function.comp_def]
    · next hplain =>
      rw [not_or, not_or] at hplain
      obtain ⟨hescape, hmany, hany⟩ := hplain
      rw [List.singleton_append, tokens_plain hescape hmany hany, ih]
      simp [Function.comp_def]

theorem matchTokens_literals (literals : List Char) (rest : List Token) (text : List Char) :
    matchTokens fold (literals.map Token.literal ++ rest) text = true ↔
      ∃ front back, text = front ++ back ∧ front.map fold = literals.map fold ∧
        matchTokens fold rest back = true := by
  induction literals generalizing text with
  | nil => simp
  | cons c literals ih =>
    cases text with
    | nil => simp [matchTokens]
    | cons d text =>
      simp only [List.map_cons, List.cons_append, matchTokens, Bool.and_eq_true, beq_iff_eq, ih]
      constructor
      · rintro ⟨hfold, front, back, rfl, hfront, hback⟩
        exact ⟨d :: front, back, rfl, by rw [List.map_cons, hfront, hfold], hback⟩
      · rintro ⟨front, back, htext, hfront, hback⟩
        cases front with
        | nil => simp at hfront
        | cons e front =>
          rw [List.cons_append, List.cons.injEq] at htext
          obtain ⟨rfl, rfl⟩ := htext
          rw [List.map_cons, List.cons.injEq] at hfront
          exact ⟨hfront.1.symm, front, back, rfl, hfront.2, hback⟩

theorem matchTokens_many (text : List Char) : matchTokens fold [.many] text = true := by
  rw [matchTokens, List.any_eq_true]
  exact ⟨[], by simp, rfl⟩

theorem like_quote_iff (hescape : escape ≠ '%') {literal text : List Char} :
    like fold escape (quote escape literal ++ ['%']) text = true ↔
      literal.map fold <+: text.map fold := by
  have htokens : tokens escape ['%'] = some [.many] := by simp [tokens, Ne.symm hescape]
  unfold like
  rw [tokens_quote, htokens, Option.map_some, Option.any_some, matchTokens_literals]
  constructor
  · rintro ⟨front, back, rfl, hfront, -⟩
    rw [List.map_append, hfront]
    exact List.prefix_append _ _
  · intro hprefix
    obtain ⟨back, hback⟩ := hprefix
    obtain ⟨front, rest, rfl, hfront, -⟩ := List.map_eq_append_iff.mp hback.symm
    exact ⟨front, rest, rfl, hfront, matchTokens_many rest⟩

end LikePattern
