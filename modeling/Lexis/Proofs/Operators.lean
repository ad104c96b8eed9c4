import Lexis.Proofs.Yields

/-!
# Operators

The classes of characters have an order, but only the first character of an
operator is classified.  The others are those that follow it in the operator set,
whatever other class claims them: a comment marker in the operator set starts a
comment by itself and is swallowed behind another operator character.

So the operators of a dialect are the non-empty texts over its operator set whose
first character starts an operator (`operator_mem_items_iff`).  Their characters
all belong to the class of operators exactly if no other class, and no blank, has
a share in the operator set, or if no character starts an operator at all
(`operators_classified_iff`).
-/

namespace Lexis

variable {d : Dialect}

/-- A run of operator characters that starts an operator yields it. -/
theorem yields_operator {c : Char} {signs : List Char} (starts : d.Starts .operator c)
    (areSigns : ∀ x ∈ signs, d.isOperator x = true) :
    Yields d (c :: signs) [] [.operator (String.ofList (c :: signs))] :=
  .single (.behind .nil (.token (.operator starts areSigns (ends_nil _))))

theorem operator_shape {lexeme after : List Char} {text : String}
    (h : Lexeme d lexeme after (.operator text)) :
    ∃ c signs, text = String.ofList (c :: signs) ∧ d.Starts .operator c ∧
      ∀ x ∈ signs, d.isOperator x = true := by
  cases h with
  | operator starts areSigns ends => exact ⟨_, _, rfl, starts, areSigns⟩

/-- **The operators of a dialect**: some source yields the operator `text` exactly
if it is a run over the operator set whose first character starts an operator. -/
theorem operator_mem_items_iff {text : String} :
    (∃ source, .ok (.operator text) ∈ (Lexer.ofText d source).items) ↔
      ∃ c signs, text = String.ofList (c :: signs) ∧ d.Starts .operator c ∧
        ∀ x ∈ signs, d.isOperator x = true := by
  constructor
  · rintro ⟨source, mem⟩
    obtain ⟨lexeme, after, isLexeme⟩ := exists_lexeme_of_mem_items mem
    exact operator_shape isLexeme
  · rintro ⟨c, signs, rfl, starts, areSigns⟩
    refine ⟨String.ofList (c :: signs), ?_⟩
    have completes := (yields_operator starts areSigns).completes_self
    rw [← String.toList_ofList (l := c :: signs)] at completes
    rw [completes.items]
    simp

/-- **When operators keep to their class**: all characters of all operators are
classified as operators exactly if the whole operator set is, or if the dialect
has no operators. -/
theorem operators_classified_iff (d : Dialect) :
    (∀ source text, .ok (.operator text) ∈ (Lexer.ofText d source).items →
      ∀ c ∈ text.toList, isBlank c = false ∧ d.classify c = .operator) ↔
    ((∃ c, isBlank c = false ∧ d.classify c = .operator) →
      ∀ c, d.isOperator c = true → isBlank c = false ∧ d.classify c = .operator) := by
  simp only [← Dialect.starts_iff]
  constructor
  · rintro keeps ⟨first, starts⟩ c isSign
    have isRun : ∀ x ∈ [c], d.isOperator x = true := by simpa using isSign
    obtain ⟨source, mem⟩ := operator_mem_items_iff.mpr ⟨first, [c], rfl, starts, isRun⟩
    exact keeps source _ mem c (by simp)
  · intro separate source text mem c inText
    obtain ⟨first, signs, rfl, starts, areSigns⟩ := operator_mem_items_iff.mp ⟨source, mem⟩
    rw [String.toList_ofList] at inText
    rcases List.mem_cons.mp inText with rfl | isSign
    · exact starts
    · exact separate ⟨first, starts⟩ c (areSigns c isSign)

/-- A comment marker behind an operator character is swallowed: the operator `+#`
holds a character that starts a comment. -/
theorem operator_swallows_comment_marker :
    let d : Dialect := { Dialect.standard with operators := "+#" }
    tokenize d "a +# b" = .ok [.identifier "a", .operator "+#", .identifier "b"] ∧
      '#' ∈ "+#".toList ∧ d.classify '#' = .comment := by
  decide +kernel

end Lexis
