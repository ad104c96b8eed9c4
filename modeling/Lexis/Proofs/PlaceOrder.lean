import Lexis.Proofs.Position

/-!
# The order of places

A place in a text is given by an offset and by a location, and either can be compared.
**The two orders are the same** for the places that cursors come to
(`compare_location_eq`), in whatever way they come there: by reading a text themselves, or
in a lexer, of any dialect.

The reason is that the places of one text lie on one line.  Of two cursors one stands
behind all that the other has read (`Cursor.Follows.trichotomy`), and over the text between
them, if there is any, both the offset and the location move on.  For a location this is
not a matter of either of its numbers: the column starts over with every line, and only the
line decides then (`Location.lt_advance`).
-/

namespace Lexis

namespace Location

/-! ### Comparing locations -/

theorem lt_iff {a b : Location} :
    a < b ↔ a.line < b.line ∨ a.line = b.line ∧ a.column < b.column := by
  show (compare a.line b.line).then (compare a.column b.column) = .lt ↔ _
  rw [Ordering.then_eq_lt, Nat.compare_eq_lt, Nat.compare_eq_eq, Nat.compare_eq_lt]

theorem compare_eq_lt {a b : Location} : compare a b = .lt ↔ a < b := Iff.rfl

theorem compare_eq_gt {a b : Location} : compare a b = .gt ↔ b < a := by
  show (compare a.line b.line).then (compare a.column b.column) = .gt ↔ _
  rw [Ordering.then_eq_gt, Nat.compare_eq_gt, Nat.compare_eq_eq, Nat.compare_eq_gt, lt_iff,
    eq_comm (a := a.line)]

theorem compare_eq_eq {a b : Location} : compare a b = .eq ↔ a = b := by
  show (compare a.line b.line).then (compare a.column b.column) = .eq ↔ _
  rw [Ordering.then_eq_eq, Nat.compare_eq_eq, Nat.compare_eq_eq]
  constructor
  · rintro ⟨lines, columns⟩
    obtain ⟨line, column⟩ := a
    exact congrArg₂ Location.mk lines columns
  · rintro rfl
    exact ⟨rfl, rfl⟩

theorem lt_irrefl (l : Location) : ¬ l < l := by
  rw [lt_iff]
  omega

/-- **Over a text that is not empty a location comes later**: in a later line, or in the
same line and a later column. -/
theorem lt_advance {text : List Char} (moves : text ≠ []) (l : Location) : l < l.advance text := by
  have nonempty := List.length_pos_iff.mpr moves
  rw [lt_iff]
  rcases advance_line_or_column l text with later | onward
  · exact Or.inl later
  · rw [onward]
    exact Or.inr ⟨rfl, Nat.lt_add_of_pos_right nonempty⟩

end Location

namespace Cursor

/-! ### Cursors in one text -/

variable {passed between : List Char} {a b : Cursor}

/-- What has been read determines a cursor. -/
theorem Follows.unique (ha : a.Follows passed) (hb : b.Follows passed)
    (same : a.source = b.source) : a = b := by
  have rest : a.rest = b.rest := by
    have texts := ha.text
    rw [same, hb.text] at texts
    exact (List.append_cancel_left texts).symm
  have position := ha.position.trans hb.position.symm
  have location := ha.location.trans hb.location.symm
  obtain ⟨_, _, _, _⟩ := a
  obtain ⟨_, _, _, _⟩ := b
  simp_all

/-- A cursor that has read more is at a later offset, and at a later location. -/
theorem Follows.later (ha : a.Follows passed) (hb : b.Follows (passed ++ between))
    (more : between ≠ []) : a.position < b.position ∧ a.location < b.location := by
  constructor
  · rw [ha.position, hb.position, byteCount_append]
    exact Nat.lt_add_of_pos_right (byteCount_pos more)
  · rw [ha.location, hb.location, Location.advance_append]
    exact Location.lt_advance more _

/-- **Of two cursors in one text** one has read more, or they are the same. -/
theorem Follows.trichotomy {passed' : List Char} (ha : a.Follows passed)
    (hb : b.Follows passed') (same : a.source = b.source) :
    a = b ∨ (a.position < b.position ∧ a.location < b.location) ∨
      (b.position < a.position ∧ b.location < a.location) := by
  have whole : passed ++ a.rest = passed' ++ b.rest := by rw [← ha.text, ← hb.text, same]
  rcases List.append_eq_append_iff.mp whole with ⟨between, rfl, -⟩ | ⟨between, rfl, -⟩
  · by_cases more : between = []
    · rw [more, List.append_nil] at hb
      exact Or.inl (ha.unique hb same)
    · exact Or.inr (Or.inl (ha.later hb more))
  · by_cases more : between = []
    · rw [more, List.append_nil] at ha
      exact Or.inl (ha.unique hb same)
    · exact Or.inr (Or.inr (hb.later ha more))

/-- **Locations compare as offsets do.** -/
theorem Follows.compare_eq {passed' : List Char} (ha : a.Follows passed)
    (hb : b.Follows passed') (same : a.source = b.source) :
    compare a.location b.location = compare a.position b.position := by
  rcases ha.trichotomy hb same with rfl | ⟨position, location⟩ | ⟨position, location⟩
  · rw [Location.compare_eq_eq.mpr rfl, Nat.compare_eq_eq.mpr rfl]
  · rw [Location.compare_eq_lt.mpr location, Nat.compare_eq_lt.mpr position]
  · rw [Location.compare_eq_gt.mpr location, Nat.compare_eq_gt.mpr position]

/-- At one offset there is one cursor. -/
theorem Follows.eq_of_position {passed' : List Char} (ha : a.Follows passed)
    (hb : b.Follows passed') (same : a.source = b.source) (here : a.position = b.position) :
    a = b := by
  rcases ha.trichotomy hb same with equal | ⟨position, -⟩ | ⟨position, -⟩
  · exact equal
  · exact absurd here (Nat.ne_of_lt position)
  · exact absurd here (Nat.ne_of_gt position)

/-- What a session reads, a cursor moves over; if it reads nothing, it stays. -/
theorem run_forward (ops : List Operation) (c : Cursor) :
    ∃ n, (Session.run perform ops c).2 = c.forward n ∧
      consumed (Session.run perform ops c).1 = c.rest.take n := by
  refine Session.run_history
    (P := fun past c' => ∃ n, c' = c.forward n ∧ consumed past = c.rest.take n) ?_ ops []
    ⟨0, rfl, rfl⟩
  rintro past op c' ⟨m, rfl, read⟩
  obtain ⟨n, moved, handed⟩ := perform_forward op (c.forward m)
  refine ⟨m + n, by rw [moved, forward_forward], ?_⟩
  have split : consumed (past ++ [(perform op (c.forward m)).1]) =
      consumed past ++ (perform op (c.forward m)).1.consumed := by
    rw [consumed, List.flatMap_append, List.flatMap_singleton]
    rfl
  rw [split, read, handed, rest_forward, List.take_add]

theorem forward_eq_self {n : Nat} {c : Cursor} (stays : c.rest.take n = []) : c.forward n = c := by
  rcases List.take_eq_nil_iff.mp stays with rfl | ended
  · rfl
  · induction n with
    | zero => rfl
    | succ n ih =>
      have here : c.next = c := by
        unfold next
        rw [ended]
      rw [forward, here, ih (by rw [ended, List.take_nil])]

end Cursor

theorem Lexer.run_forward (ops : List Operation) (l : Lexer) :
    ∃ n, (Session.run perform ops l).2.cursor = l.cursor.forward n := by
  refine Session.run_invariant (P := fun l' : Lexer => ∃ n, l'.cursor = l.cursor.forward n) ?_ ops
    ⟨0, rfl⟩
  rintro op l' ⟨m, moved⟩
  obtain ⟨n, performed⟩ := perform_forward op l'
  exact ⟨m + n, by rw [performed, moved, Cursor.forward_forward]⟩

/-! ### Places that are reached -/

/-- A way to a place in a text: operations on a cursor, or on a lexer. -/
inductive Route : Type 1 where
  | reading (ops : List Cursor.Operation)
  | lexing (d : Dialect) (ops : List Lexer.Operation)

/-- The cursor at the end of a route, in the given text. -/
def Route.goal (text : String) : Route → Cursor
  | reading ops => (Cursor.session text ops).2
  | lexing d ops => (Lexer.session d text ops).2.cursor

theorem Route.follows (text : String) (r : Route) :
    ∃ passed, (r.goal text).Follows passed ∧ (r.goal text).source = text := by
  cases r with
  | reading ops => exact ⟨_, Cursor.follows_session text ops⟩
  | lexing d ops => exact Lexer.follows_session d text ops

/-- **Locations are in the order of offsets.**  Let `a` and `b` be two cursors that have
come to places in one text, in whatever way.

* Their locations compare as their offsets do: one is before the other, or the same, by
  line and column exactly if it is so by bytes.  At one location there is one cursor.
* Whatever a cursor reads moves its location on; where it reads nothing it stays.
* So it is for a lexer: its location moves on exactly if its cursor does not stay.
-/
theorem compare_location_eq (text : String) :
    (∀ r s : Route,
      let a := r.goal text
      let b := s.goal text
      compare a.location b.location = compare a.position b.position ∧
      (a.location < b.location ↔ a.position < b.position) ∧
      (a.location = b.location ↔ a.position = b.position) ∧
      (a.location = b.location → a = b)) ∧
    (∀ (r : Route) (ops : List Cursor.Operation),
      let c := r.goal text
      let later := Session.run Cursor.perform ops c
      (Cursor.consumed later.1 ≠ [] → c.location < later.2.location) ∧
      (Cursor.consumed later.1 = [] → later.2 = c)) ∧
    (∀ (d : Dialect) (ops more : List Lexer.Operation),
      let l := (Lexer.session d text ops).2
      let later := (Session.run Lexer.perform more l).2
      later.cursor ≠ l.cursor ↔ l.location < later.location) := by
  refine ⟨?_, ?_, ?_⟩
  · intro r s a b
    obtain ⟨_, behind, source⟩ := r.follows text
    obtain ⟨_, behind', source'⟩ := s.follows text
    have same : a.source = b.source := source.trans source'.symm
    have order := behind.compare_eq behind' same
    have equal : a.location = b.location ↔ a.position = b.position := by
      rw [← Location.compare_eq_eq, order, Nat.compare_eq_eq]
    refine ⟨order, ?_, equal, ?_⟩
    · rw [← Location.compare_eq_lt, order, Nat.compare_eq_lt]
    · intro here
      exact behind.eq_of_position behind' same (equal.mp here)
  · intro r ops c later
    obtain ⟨passed, behind, -⟩ := r.follows text
    obtain ⟨n, moved, read⟩ := Cursor.run_forward ops c
    constructor
    · intro some
      rw [read] at some
      have further := behind.forward n
      rw [← moved] at further
      exact (behind.later further some).2
    · intro none
      rw [read] at none
      exact moved.trans (Cursor.forward_eq_self none)
  · intro d ops more l later
    obtain ⟨passed, behind, -⟩ := Lexer.follows_session d text ops
    obtain ⟨n, moved⟩ := Lexer.run_forward more l
    constructor
    · intro apart
      have some : l.cursor.rest.take n ≠ [] := fun none =>
        apart (moved.trans (Cursor.forward_eq_self none))
      have further := behind.forward n
      rw [← moved] at further
      exact (behind.later further some).2
    · intro order same
      rw [Lexer.location, Lexer.location, same] at order
      exact Location.lt_irrefl _ order

end Lexis
