import Lexis.Proofs.Grammar
import Lexis.Proofs.Walk

/-!
# The longest run

A run is read with a test that may change its state at every call, so it matters how often
the test is called and on what.  **It is called on the characters of the run, one after
another, and then on the character behind the run**, if there is one: it accepts the
former and refuses the latter (`Cursor.readWith_longest`).  The character that is refused
stays unread.

* **A call** gives an answer and a state, and the next call starts from that state.  So
  the calls on some characters are a session with the test (`calls`).
* **That there are no other calls** is seen by a test that keeps a record of them
  (`recording`).  It answers as the test itself does, and reading cannot tell the two apart.

For a test without state the run is the longest one in the usual sense, and the next run
of the same kind is empty (`Cursor.readWhile_again`).
-/

namespace Lexis

variable {σ : Type}

/-! ### Calls of a test -/

/-- The answers of a test that is called on some characters in turn, and its state after
the last call. -/
def calls (test : σ → Char → Bool × σ) (chars : List Char) (s : σ) : List Bool × σ :=
  Session.run (fun ch s => test s ch) chars s

@[simp] theorem calls_nil (test : σ → Char → Bool × σ) (s : σ) : calls test [] s = ([], s) := rfl

@[simp] theorem calls_cons (test : σ → Char → Bool × σ) (ch : Char) (chars : List Char) (s : σ) :
    calls test (ch :: chars) s =
      ((test s ch).1 :: (calls test chars (test s ch).2).1, (calls test chars (test s ch).2).2) :=
  rfl

/-- A test without state answers for each character by itself. -/
theorem calls_stateless (accepts : Char → Bool) (chars : List Char) :
    (calls (fun _ ch => (accepts ch, ())) chars ()).1 = chars.map accepts :=
  Session.run_eq_map (P := fun _ => True) (f := accepts) (fun _ _ _ => trivial) (fun _ _ _ => rfl)
    chars trivial

/-- The same test, which keeps a record of the characters that it is called on. -/
def recording (test : σ → Char → Bool × σ) (s : σ × List Char) (ch : Char) :
    Bool × (σ × List Char) :=
  ((test s.1 ch).1, (test s.1 ch).2, s.2 ++ [ch])

namespace Cursor

/-! ### Reading a run -/

section Reading

variable {test : σ → Char → Bool × σ} {c : Cursor} {ch : Char} {rest : List Char}

theorem readOnto_ended (ended : c.rest = []) (read : List Char) (s : σ) :
    readOnto test read s c = ⟨read.reverse, s, c⟩ := by
  rw [readOnto]
  split
  · rfl
  · next more => cases ended.symm.trans more

theorem readOnto_more (more : c.rest = ch :: rest) (read : List Char) (s : σ) :
    readOnto test read s c = match test s ch with
      | (true, s') => readOnto test (ch :: read) s' c.next
      | (false, s') => ⟨read.reverse, s', c⟩ := by
  rw [readOnto]
  split
  · next ended => cases ended.symm.trans more
  · next found =>
    obtain ⟨rfl, -⟩ := List.cons.inj (found.symm.trans more)
    rfl

end Reading

/-- **Reading stops at the first character that is refused**, or where the text ends. -/
theorem exists_readOnto (test : σ → Char → Bool × σ) (read : List Char) (s : σ) (c : Cursor) :
    ∃ text after, c.rest = text ++ after ∧
      (readOnto test read s c).text = read.reverse ++ text ∧
      (readOnto test read s c).cursor = c.forward text.length ∧
      calls test (text ++ after.take 1) s =
        (List.replicate text.length true ++ List.replicate (after.take 1).length false,
          (readOnto test read s c).state) := by
  fun_induction readOnto test read s c with
  | case1 read s c ended => exact ⟨[], [], ended, (List.append_nil _).symm, rfl, rfl⟩
  | case2 read s c ch rest more s' accepted ih =>
    obtain ⟨text, after, split, text_eq, cursor, called⟩ := ih
    rw [rest_next, more] at split
    refine ⟨ch :: text, after, ?_, ?_, cursor, ?_⟩
    · rw [more, List.cons_append, ← split]
      rfl
    · rw [text_eq, List.reverse_cons, List.append_assoc]
      rfl
    · rw [List.cons_append, calls_cons, accepted, called]
      rfl
  | case3 read s c ch rest more s' refused =>
    refine ⟨[], ch :: rest, more, (List.append_nil _).symm, rfl, ?_⟩
    simp [refused]

/-- **A record of the calls changes nothing else.** -/
theorem exists_readOnto_recording (test : σ → Char → Bool × σ) (read : List Char) (s : σ)
    (c : Cursor) (seen : List Char) :
    let run := readOnto test read s c
    ∃ text, run.text = read.reverse ++ text ∧
      readOnto (recording test) read (s, seen) c =
        ⟨run.text, (run.state, seen ++ (text ++ run.cursor.rest.take 1)), run.cursor⟩ := by
  fun_induction readOnto test read s c generalizing seen with
  | case1 read s c ended =>
    refine ⟨[], (List.append_nil _).symm, ?_⟩
    rw [readOnto_ended ended, ended]
    simp
  | case2 read s c ch rest more s' accepted ih =>
    obtain ⟨text, text_eq, recorded⟩ := ih (seen ++ [ch])
    refine ⟨ch :: text, ?_, ?_⟩
    · rw [text_eq, List.reverse_cons, List.append_assoc]
      rfl
    · rw [readOnto_more more, recording, accepted]
      dsimp only
      rw [recorded, List.append_assoc]
      rfl
  | case3 read s c ch rest more s' refused =>
    refine ⟨[], (List.append_nil _).symm, ?_⟩
    rw [readOnto_more more, recording, refused, more]
    rfl

/-- A run without state is the longest one, in the usual sense. -/
theorem readWhile_eq (accepts : Char → Bool) (c : Cursor) :
    c.readWhile accepts =
      (c.rest.takeWhile accepts, c.forward (c.rest.takeWhile accepts).length) := by
  obtain ⟨text, after, split, text_eq, cursor, called⟩ :=
    exists_readOnto (fun _ ch => (accepts ch, ())) [] () c
  have answers : (text ++ after.take 1).map accepts =
      List.replicate text.length true ++ List.replicate (after.take 1).length false := by
    rw [← calls_stateless, called]
  rw [List.map_append] at answers
  -- Without a state, what a call answered is what the class says of the character.
  obtain ⟨accepted, refused⟩ := List.append_inj answers (by simp)
  have inside : ∀ ch ∈ text, accepts ch = true := by
    intro ch mem
    exact List.eq_of_mem_replicate (accepted ▸ List.mem_map_of_mem mem)
  have ends : Ends accepts after := by
    intro ch mem
    have first : ch ∈ after.take 1 := by
      rw [List.take_one]
      exact Option.mem_toList.mpr mem
    exact List.eq_of_mem_replicate (refused ▸ List.mem_map_of_mem first)
  have run : c.rest.takeWhile accepts = text := by rw [split, takeWhile_run inside ends]
  rw [run]
  exact Prod.ext text_eq cursor

/-- **The next run of the same kind is empty.** -/
theorem readWhile_again (accepts : Char → Bool) (c : Cursor) :
    (c.readWhile accepts).2.readWhile accepts = ([], (c.readWhile accepts).2) := by
  obtain ⟨run, after, split, inside, ends⟩ := exists_run accepts c.rest
  have first : c.rest.takeWhile accepts = run := by rw [split, takeWhile_run inside ends]
  have second : ([] ++ after).takeWhile accepts = [] :=
    takeWhile_run (fun _ mem => nomatch mem) ends
  rw [List.nil_append] at second
  have left : (c.forward run.length).rest = after := by rw [rest_forward, split, List.drop_left]
  rw [readWhile_eq accepts c, first, readWhile_eq, left, second]
  rfl

/-- **A run is as long as its test allows.**  Let `run` be what is read with a test from a
cursor, and let `calls` be the text of the run and behind it the character that is left
unread, if there is one.

* The test is called on `calls`, one character after another, and on nothing else.
* It accepts the text of the run and refuses the character behind it.  So it is called once
  for each character of the run and once more, unless the text has ended.
* The cursor comes to stand behind the text of the run, and its counters with it.
* A test without state, used again at once, reads nothing more.
-/
theorem readWith_longest (test : σ → Char → Bool × σ) (s : σ) (c : Cursor) :
    let run := c.readWith test s
    let refused := run.cursor.rest.take 1
    let called := run.text ++ refused
    c.rest = run.text ++ run.cursor.rest ∧
    c.readWith (recording test) (s, []) = ⟨run.text, (run.state, called), run.cursor⟩ ∧
    calls test called s =
      (List.replicate run.text.length true ++ List.replicate refused.length false, run.state) ∧
    called.length = run.text.length + (if run.cursor.atEnd then 0 else 1) ∧
    (run.cursor.source = c.source ∧ run.cursor.position = c.position + byteCount run.text ∧
      run.cursor.location = c.location.advance run.text) ∧
    ∀ accepts : Char → Bool,
      let first := c.readWhile accepts
      first.1 = c.rest.takeWhile accepts ∧ first.2.readWhile accepts = ([], first.2) := by
  intro run refused called
  obtain ⟨text, after, split, text_eq, cursor, answers⟩ := exists_readOnto test [] s c
  have read : run.text = text := text_eq
  have reached : run.cursor = c.forward text.length := cursor
  have left : run.cursor.rest = after := by rw [reached, rest_forward, split, List.drop_left]
  have taken : c.rest.take text.length = text := by rw [split, List.take_left]
  refine ⟨?_, ?_, ?_, ?_, ⟨?_, ?_, ?_⟩, ?_⟩
  · rw [read, left, split]
  · obtain ⟨text', text'_eq, recorded⟩ := exists_readOnto_recording test [] s c []
    have same : run.text = text' := text'_eq
    rw [readWith, recorded, ← same]
    rfl
  · rw [show called = text ++ after.take 1 by rw [← read, ← left], answers, read,
      show refused = after.take 1 by rw [← left]]
    rfl
  · rw [List.length_append, atEnd, peek]
    cases unread : run.cursor.rest <;> simp [refused, unread]
  · rw [reached, source_forward]
  · rw [reached, position_forward, taken, read]
  · rw [reached, location_forward, taken, read]
  · intro accepts
    exact ⟨congrArg Prod.fst (readWhile_eq accepts c), readWhile_again accepts c⟩

/-- A test that accepts three characters: it is called on the fourth as well, which stays
unread. -/
example :
    let three (n : Nat) (_ : Char) : Bool × Nat := (n != 0, n - 1)
    let run := (ofText "abcde").readWith (recording three) (3, [])
    run.text = ['a', 'b', 'c'] ∧ run.state.2 = ['a', 'b', 'c', 'd'] ∧ run.cursor.position = 3 := by
  decide +kernel

end Cursor

end Lexis
