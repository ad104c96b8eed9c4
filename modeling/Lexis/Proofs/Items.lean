import Lexis.Proofs.Scanning

/-!
# The items of a lexer

Iterating yields one item after another: tokens, and after them at most one
error.  `Lexer.items` is the list of them.  It says more than `Lexer.collect`,
which forgets the tokens in front of an error; `collect_eq_ok_iff` and
`collect_eq_error_iff` say how the two hang together.

**A lexer without lookahead** that has not failed (`Lexer.Plain`) yields what its
next scan finds, and is a lexer of that kind behind it.  `Plain.items_of_scan` is
that one step; everything about whole texts follows from it by induction.
-/

namespace Lexis

/-- What iterating yields. -/
abbrev Item := Except LexicalError Token

namespace Lexer

/-- All that iterating yields, from the first item to the last. -/
def items (l : Lexer) : List Item :=
  match _h : l.iterate with
  | (none, _) => []
  | (some (.error e), _) => [.error e]
  | (some (.ok t), l') => .ok t :: l'.items
termination_by l.remaining
decreasing_by exact remaining_iterate _h

theorem items_of_none {l l' : Lexer} (h : l.iterate = (none, l')) : l.items = [] := by
  rw [items]
  split <;> simp_all

theorem items_of_error {l l' : Lexer} {e : LexicalError} (h : l.iterate = (some (.error e), l')) :
    l.items = [.error e] := by
  rw [items]
  split <;> simp_all

theorem items_of_token {l l' : Lexer} {t : Token} (h : l.iterate = (some (.ok t), l')) :
    l.items = .ok t :: l'.items := by
  rw [items]
  split <;> simp_all

/-- The items are tokens, and then at most one error. -/
theorem exists_items (l : Lexer) :
    ∃ ts : List Token, l.items = ts.map .ok ∨ ∃ e, l.items = ts.map .ok ++ [.error e] := by
  fun_induction items l with
  | case1 => exact ⟨[], Or.inl rfl⟩
  | case2 l e => exact ⟨[], Or.inr ⟨e, rfl⟩⟩
  | case3 l t l' next ih =>
    obtain ⟨ts, all | ⟨e, upTo⟩⟩ := ih
    · exact ⟨t :: ts, Or.inl (by rw [all]; rfl)⟩
    · exact ⟨t :: ts, Or.inr ⟨e, by rw [upTo]; rfl⟩⟩

/-! ### Collecting -/

/-- **Folding reads the items** up to the first error. -/
theorem fold_fst {σ : Type} (gather : σ → Token → σ) (s : σ) (l : Lexer) :
    (l.fold gather s).1 = l.items.foldlM (fun s item => item.map (gather s)) s := by
  fun_induction fold gather s l with
  | case1 s l l' next => rw [items_of_none next]; rfl
  | case2 s l e l' next => rw [items_of_error next]; rfl
  | case3 s l t l' next ih => rw [ih, items_of_token next]; rfl

theorem foldlM_tokens {σ : Type} (gather : σ → Token → σ) (ts : List Token) (more : List Item)
    (s : σ) : (ts.map Except.ok ++ more).foldlM (fun s (item : Item) => item.map (gather s)) s =
      more.foldlM (fun s (item : Item) => item.map (gather s)) (ts.foldl gather s) := by
  induction ts generalizing s with
  | nil => rfl
  | cons t ts ih => exact ih (gather s t)

/-- **Collecting** gives the tokens, or the error behind them. -/
theorem collect_of_items {l : Lexer} {ts : List Token} (h : l.items = ts.map .ok) :
    l.collect.1 = .ok ts := by
  have folded := fold_fst (fun read t => t :: read) [] l
  rw [h, ← List.append_nil (ts.map _), foldlM_tokens] at folded
  simp only [collect, folded, List.foldlM_nil]
  simp [pure, Except.pure, Except.map]

theorem collect_of_items_error {l : Lexer} {ts : List Token} {e : LexicalError}
    (h : l.items = ts.map .ok ++ [.error e]) : l.collect.1 = .error e := by
  have folded := fold_fst (fun read t => t :: read) [] l
  rw [h, foldlM_tokens] at folded
  simp only [collect, folded]
  rfl

/-- Tokens in front of the items come in front of what is collected. -/
theorem collect_of_items_append {l l' : Lexer} {ts : List Token}
    (h : ts.map .ok ++ l.items = l'.items) : l'.collect.1 = l.collect.1.map (ts ++ ·) := by
  obtain ⟨ts', all | ⟨e, upTo⟩⟩ := l.exists_items
  · have whole : l'.items = (ts ++ ts').map .ok := by rw [← h, all, List.map_append]
    rw [collect_of_items all, collect_of_items whole]
    rfl
  · have whole : l'.items = (ts ++ ts').map .ok ++ [.error e] := by
      rw [← h, upTo, List.map_append, List.append_assoc]
    rw [collect_of_items_error upTo, collect_of_items_error whole]
    rfl

theorem collect_eq_ok_iff {l : Lexer} {ts : List Token} :
    l.collect.1 = .ok ts ↔ l.items = ts.map .ok := by
  constructor
  · intro collected
    obtain ⟨ts', all | ⟨e, upTo⟩⟩ := l.exists_items
    · rw [collect_of_items all] at collected
      rw [all, Except.ok.inj collected]
    · rw [collect_of_items_error upTo] at collected
      cases collected
  · exact collect_of_items

theorem collect_eq_error_iff {l : Lexer} {e : LexicalError} :
    l.collect.1 = .error e ↔ ∃ ts : List Token, l.items = ts.map .ok ++ [.error e] := by
  constructor
  · intro collected
    obtain ⟨ts', all | ⟨e', upTo⟩⟩ := l.exists_items
    · rw [collect_of_items all] at collected
      cases collected
    · rw [collect_of_items_error upTo] at collected
      exact ⟨ts', by rw [upTo, Except.error.inj collected]⟩
  · rintro ⟨ts, upTo⟩
    exact collect_of_items_error upTo

/-! ### One item at a time -/

/-- The lexer holds no token, and iterating it has not met an error. -/
structure Plain (l : Lexer) : Prop where
  empty : l.lookahead = none
  unfailed : l.failed = false

theorem plain_ofText (d : Dialect) (source : String) : (ofText d source).Plain := ⟨rfl, rfl⟩

theorem Plain.scan {l : Lexer} (h : l.Plain) : l.scan.2.Plain := ⟨h.empty, h.unfailed⟩

theorem nextToken_of_empty {l : Lexer} (empty : l.lookahead = none) : l.nextToken = l.scan := by
  unfold nextToken
  rw [empty]

theorem Plain.iterate_eq {l : Lexer} (h : l.Plain) :
    l.iterate = match l.scan.1 with
      | .ok found => (found.map .ok, l.scan.2)
      | .error e => (some (.error e), { l.scan.2 with failed := true }) := by
  unfold iterate
  rw [h.unfailed, if_neg (by simp), nextToken_of_empty h.empty]
  rcases l.scan with ⟨found | e, l'⟩ <;> rfl

/-- **The items are what the next scan finds**, and the items behind it. -/
theorem Plain.items_of_scan {l : Lexer} (h : l.Plain) :
    l.items = match l.scan.1 with
      | .ok none => []
      | .ok (some t) => .ok t :: l.scan.2.items
      | .error e => [.error e] := by
  have next := h.iterate_eq
  rcases reply : l.scan.1 with e | _ | t <;> rw [reply] at next
  · exact items_of_error next
  · exact items_of_none next
  · exact items_of_token next

theorem Plain.items_eq {l : Lexer} {passed after : List Char} {found : Found} (h : l.Plain)
    (rest_eq : l.cursor.rest = passed ++ after) (scans : Scans l.dialect passed after found) :
    l.items = match found with
      | .ok none => []
      | .ok (some t) => .ok t :: l.scan.2.items
      | .error f => [.error (l.scan.2.cursor.fail f.code f.message)] := by
  rw [h.items_of_scan, (scanned_of_scans rest_eq scans).reply]
  rcases found with f | _ | t <;> rfl

/-- A scan that finds no token comes to the end of the text. -/
theorem rest_of_scan_none {l : Lexer} (reply : l.scan.1 = .ok none) :
    l.scan.2.cursor.rest = [] := by
  obtain ⟨passed, after, found, rest_eq, scans⟩ := exists_scans l.dialect l.cursor
  have scanned := scanned_of_scans rest_eq scans
  have replies := scanned.reply.symm.trans reply
  rw [scanned.rest]
  cases scans with
  | behind isGap finds =>
    cases finds with
    | ended => rfl
    | token | fault => cases replies

/-- **What a plain lexer yields next**: nothing in front of a last gap, or the
token of a lexeme behind a gap, or else an error. -/
theorem Plain.items_cases {l : Lexer} (h : l.Plain) :
    (Gap l.dialect l.cursor.rest [] ∧ l.items = []) ∨
    (∃ gap lexeme after t, l.cursor.rest = gap ++ (lexeme ++ after) ∧
      Gap l.dialect gap (lexeme ++ after) ∧ Lexeme l.dialect lexeme after t ∧
      l.scan.2.cursor.rest = after ∧ l.items = .ok t :: l.scan.2.items) ∨
    ∃ e, l.items = [.error e] := by
  obtain ⟨passed, after, found, rest_eq, scans⟩ := exists_scans l.dialect l.cursor
  have items := h.items_eq rest_eq scans
  have behind := (scanned_of_scans rest_eq scans).rest
  cases scans with
  | @behind gap text after found isGap finds =>
    cases finds with
    | ended =>
      rw [List.append_nil, List.append_nil] at rest_eq
      exact Or.inl ⟨rest_eq ▸ isGap, items⟩
    | token isLexeme =>
      rw [List.append_assoc] at rest_eq
      exact Or.inr (Or.inl ⟨gap, text, after, _, rest_eq, isGap, isLexeme, behind, items⟩)
    | fault => exact Or.inr (Or.inr ⟨_, items⟩)

end Lexer

end Lexis
