import Lexis.Proofs.Requests

/-!
# Lookahead

The token that a lexer keeps cannot be told from the outside.  Whatever it is
asked for, and in whatever order, its answers are those that the items of a
fresh lexer dictate, as long as none of them is an error (`dialogue_transparent`).

The two halves of the state are followed apart:

* **The items** (`Serves`): what comes next is the first of them (`head?_items`),
  and every answer tells no more.  Keeping a token changes no items (`items_of_kept`),
  and a scan that finds none may be repeated, because it has come to the end of
  the text (`Plain.items_exhausted`).  Handing out a token takes it off the
  items, and nothing else does.
* **The cursor** (`sameScans_run`): it is where the same number of scans takes a
  lexer that is only ever asked for the next token.  This needs no assumption
  about errors.
-/

namespace Lexis

/-- The reply to someone who asks for the next item. -/
def Reply.ofItem? : Option Item → Reply
  | none => .ok none
  | some item => item.map some

/-- A reply as an item; there is none at the end of the text. -/
def Reply.item? : Reply → Option Item
  | .ok found => found.map .ok
  | .error e => some (.error e)

theorem Reply.ofItem?_item? (reply : Reply) : Reply.ofItem? (Reply.item? reply) = reply := by
  rcases reply with e | _ | t <;> rfl

theorem Reply.item?_ofItem? (item : Option Item) : Reply.item? (Reply.ofItem? item) = item := by
  rcases item with _ | e | t <;> rfl

/-- The answer that is due to a request, given the item that comes next. -/
def Answer.due : Request → Option Item → Answer
  | .next, item => .next (.ofItem? item)
  | .peek, item => .peek (.ofItem? item)
  | .atEnd, item => .atEnd ((Reply.ofItem? item).map Option.isNone)
  | .iterate, item => .iterate item

namespace Lexer

/-! ### What comes next -/

/-- What comes next: the token that is kept, or else what a scan finds. -/
def outlook (l : Lexer) : Option Item :=
  match l.lookahead with
  | some t => some (.ok t)
  | none => Reply.item? l.scan.1

theorem outlook_of_kept {l : Lexer} {t : Token} (kept : l.lookahead = some t) :
    l.outlook = some (.ok t) := by
  rw [outlook, kept]

theorem outlook_of_empty {l : Lexer} (empty : l.lookahead = none) :
    l.outlook = Reply.item? l.scan.1 := by
  rw [outlook, empty]

theorem scan_reply_of_empty {l : Lexer} (empty : l.lookahead = none) :
    l.scan.1 = .ofItem? l.outlook := by
  rw [outlook_of_empty empty, Reply.ofItem?_item?]

theorem nextToken_reply (l : Lexer) : l.nextToken.1 = .ofItem? l.outlook := by
  rcases kept : l.lookahead with _ | t
  · rw [nextToken_of_empty kept, scan_reply_of_empty kept]
  · rw [nextToken, kept, outlook_of_kept kept]
    rfl

theorem peekToken_reply (l : Lexer) : l.peekToken.1 = .ofItem? l.outlook := by
  rcases kept : l.lookahead with _ | t
  · rw [← scan_reply_of_empty kept, peekToken_of_empty kept]
    rcases l.scan.1 with e | found <;> rfl
  · rw [peekToken, kept, outlook_of_kept kept]
    rfl

theorem iterate_item {l : Lexer} (unfailed : l.failed = false) : l.iterate.1 = l.outlook := by
  have reply := l.nextToken_reply
  rw [iterate, if_neg (by simp [unfailed]), ← Reply.item?_ofItem? l.outlook, ← reply]
  rcases l.nextToken with ⟨e | found, l'⟩ <;> rfl

/-- **Every request is answered by what comes next**; only iterating is over once
it has met an error. -/
theorem ask_eq_due {l : Lexer} {r : Request} (live : r = .iterate → l.failed = false) :
    (l.ask r).1 = .due r l.outlook := by
  cases r with
  | next => exact congrArg Answer.next l.nextToken_reply
  | peek => exact congrArg Answer.peek l.peekToken_reply
  | atEnd => exact congrArg (fun reply : Reply => Answer.atEnd (reply.map _)) l.peekToken_reply
  | iterate => exact congrArg Answer.iterate (iterate_item (live rfl))

/-! ### Items -/

/-- A token that is kept is the first of the items. -/
theorem items_of_kept {l : Lexer} {t : Token} (unfailed : l.failed = false)
    (kept : l.lookahead = some t) : l.items = .ok t :: { l with lookahead := none }.items := by
  refine items_of_token ?_
  rw [iterate, if_neg (by simp [unfailed]), nextToken, kept]
  rfl

/-- Behind a scan that finds no token there is none. -/
theorem Plain.items_exhausted {l : Lexer} (h : l.Plain) (reply : l.scan.1 = .ok none) :
    l.scan.2.items = [] := by
  have ended : l.scan.2.cursor.rest = [] ++ [] := rest_of_scan_none reply
  exact h.scan.items_eq ended (.behind .nil .ended)

/-- **A scan takes off the items what it finds.** -/
theorem Plain.items_scan {l : Lexer} (h : l.Plain) {found : Option Token}
    (reply : l.scan.1 = .ok found) : found.toList.map .ok ++ l.scan.2.items = l.items := by
  rw [h.items_of_scan, reply]
  cases found with
  | none => exact h.items_exhausted reply
  | some t => rfl

/-- **Keeping what a scan finds changes no items.** -/
theorem Plain.items_keep {l : Lexer} (h : l.Plain) {found : Option Token}
    (reply : l.scan.1 = .ok found) : { l.scan.2 with lookahead := found }.items = l.items := by
  have undo : { l.scan.2 with lookahead := none } = l.scan.2 := by rw [← h.scan.empty]
  rw [← h.items_scan reply]
  cases found with
  -- Nothing is kept, so the next request scans again, from the end of the text.
  | none => exact congrArg items undo
  | some t =>
    have kept := items_of_kept (l := { l.scan.2 with lookahead := some t }) h.unfailed rfl
    exact kept.trans (congrArg (fun l' => .ok t :: l'.items) undo)

/-- **What comes next** is the first of the items. -/
theorem head?_items {l : Lexer} (unfailed : l.failed = false) : l.items.head? = l.outlook := by
  rcases kept : l.lookahead with _ | t
  · have plain : l.Plain := ⟨kept, unfailed⟩
    rw [plain.items_of_scan, outlook_of_empty kept]
    rcases l.scan.1 with e | _ | t <;> rfl
  · rw [items_of_kept unfailed kept, outlook_of_kept kept]
    rfl

/-- A request is answered as the items of the lexer dictate, and takes off them
what it hands out. -/
structure Serves (l : Lexer) (r : Request) (answered : Answer × Lexer) : Prop where
  answer : answered.1 = .due r l.items.head?
  unfailed : answered.1.error? = none → answered.2.failed = false
  items : answered.1.error? = none → answered.1.handed.map .ok ++ answered.2.items = l.items

/-- What a request hands out of the token kept, it takes off the items. -/
theorem items_ask_of_kept {l : Lexer} {t : Token} (unfailed : l.failed = false)
    (kept : l.lookahead = some t) (r : Request) :
    (l.ask r).2.failed = false ∧ (l.ask r).1.handed.map .ok ++ (l.ask r).2.items = l.items := by
  have items := items_of_kept unfailed kept
  cases r with
  | next =>
    rw [ask, nextToken, kept]
    exact ⟨unfailed, items.symm⟩
  | peek =>
    rw [ask, peekToken, kept]
    exact ⟨unfailed, rfl⟩
  | atEnd =>
    rw [ask, atEnd, peekToken, kept]
    exact ⟨unfailed, rfl⟩
  | iterate =>
    rw [ask, iterate, if_neg (by simp [unfailed]), nextToken, kept]
    exact ⟨unfailed, items.symm⟩

/-- What a request hands out of what a scan finds, it takes off the items. -/
theorem Plain.items_ask {l : Lexer} (h : l.Plain) {found : Option Token}
    (reply : l.scan.1 = .ok found) (r : Request) :
    (l.ask r).2.failed = false ∧ (l.ask r).1.handed.map .ok ++ (l.ask r).2.items = l.items := by
  have handed : (Answer.next (.ok found)).handed = found.toList := by cases found <;> rfl
  cases r with
  | next =>
    rw [ask, nextToken_of_empty h.empty, reply, handed]
    exact ⟨h.unfailed, h.items_scan reply⟩
  | peek =>
    rw [ask, peekToken_of_empty h.empty, reply]
    exact ⟨h.unfailed, h.items_keep reply⟩
  | atEnd =>
    rw [ask, atEnd, peekToken_of_empty h.empty, reply]
    exact ⟨h.unfailed, h.items_keep reply⟩
  | iterate =>
    rw [ask, h.iterate_eq, reply]
    refine ⟨h.unfailed, ?_⟩
    rw [← h.items_scan reply, ← handed]
    cases found <;> rfl

/-- A request that reports no error takes off the items what it hands out. -/
theorem items_ask {l : Lexer} {r : Request} (unfailed : l.failed = false)
    (noError : (l.ask r).1.error? = none) :
    (l.ask r).2.failed = false ∧ (l.ask r).1.handed.map .ok ++ (l.ask r).2.items = l.items := by
  rcases kept : l.lookahead with _ | t
  · have plain : l.Plain := ⟨kept, unfailed⟩
    rcases reply : l.scan.1 with e | found
    · rw [ask_eq_due fun _ => unfailed, outlook_of_empty kept, reply] at noError
      cases r <;> cases noError
    · exact plain.items_ask reply r
  · exact items_ask_of_kept unfailed kept r

/-- **Every request is served from the items.** -/
theorem serves_ask {l : Lexer} (unfailed : l.failed = false) (r : Request) :
    Serves l r (l.ask r) where
  answer := by
    rw [head?_items unfailed]
    exact ask_eq_due fun _ => unfailed
  unfailed noError := (items_ask unfailed noError).1
  items noError := (items_ask unfailed noError).2

/-! ### Sessions -/

/-- The tokens that the answers hand out, in order. -/
def handedOut (answers : List Answer) : List Token := answers.flatMap Answer.handed

@[simp] theorem handedOut_cons (a : Answer) (answers : List Answer) :
    handedOut (a :: answers) = a.handed ++ handedOut answers := List.flatMap_cons

/-- What a session without errors hands out, it takes off the items. -/
theorem items_run {requests : List Request} {l : Lexer} (unfailed : l.failed = false)
    (noError : ∀ a ∈ (Session.run ask requests l).1, a.error? = none) :
    (Session.run ask requests l).2.failed = false ∧
      (handedOut (Session.run ask requests l).1).map .ok ++ (Session.run ask requests l).2.items =
        l.items := by
  induction requests generalizing l with
  | nil => exact ⟨unfailed, rfl⟩
  | cons r requests ih =>
    rw [Session.run_cons] at noError ⊢
    obtain ⟨first, others⟩ := List.forall_mem_cons.mp noError
    have serves := serves_ask unfailed r
    obtain ⟨unfailed', items⟩ := ih (serves.unfailed first) others
    refine ⟨unfailed', ?_⟩
    rw [handedOut_cons, List.map_append, List.append_assoc, items, serves.items first]

/-- Asking for the next token, as often as there are tokens, hands them out. -/
theorem run_next {ts : List Token} {more : List Item} {l : Lexer} (unfailed : l.failed = false)
    (items : l.items = ts.map .ok ++ more) :
    let session := Session.run ask (List.replicate ts.length .next) l
    handedOut session.1 = ts ∧ session.2.failed = false ∧ session.2.items = more := by
  induction ts generalizing l with
  | nil => exact ⟨rfl, unfailed, items⟩
  | cons t ts ih =>
    rw [List.length_cons, List.replicate_succ, Session.run_cons]
    have serves := serves_ask unfailed .next
    have answer : (l.ask .next).1 = .next (.ok (some t)) := by rw [serves.answer, items]; rfl
    have noError : (l.ask .next).1.error? = none := by rw [answer]; rfl
    have left := serves.items noError
    rw [items, answer] at left
    obtain ⟨handed, unfailed', items'⟩ := ih (serves.unfailed noError) (List.cons.inj left).2
    refine ⟨?_, unfailed', items'⟩
    rw [handedOut_cons, answer, handed]
    rfl

/-! ### Scans -/

/-- The lexer `p` keeps no token, and is where `l` is. -/
structure SameScans (p l : Lexer) : Prop where
  dialect : p.dialect = l.dialect
  cursor : p.cursor = l.cursor
  empty : p.lookahead = none

/-- One scan of `p` for one of `l`, and the two find the same. -/
theorem SameScans.ask_of_scans {p l : Lexer} (same : SameScans p l) {r : Request}
    (scans : r.scans l = true) :
    SameScans (p.ask .next).2 (l.ask r).2 ∧
      (p.ask .next).1.handed = (l.ask r).1.handed ++ (l.ask r).2.lookahead.toList := by
  have step := step_of_scans scans
  obtain ⟨reply, cursor⟩ := scanFrom_log l.dialect p.log l.log l.cursor
  have next : p.ask .next = (.next p.scan.1, p.scan.2) := by
    rw [ask, nextToken_of_empty same.empty]
  rw [next, step.tokens]
  refine ⟨⟨same.dialect.trans step.dialect.symm, ?_, same.empty⟩, ?_⟩
  · rw [step.cursor, scan, scan, same.dialect, same.cursor]
    exact cursor
  · rw [scan, scan, same.dialect, same.cursor]
    exact congrArg (fun found => (Answer.next found).handed) reply

theorem SameScans.ask_of_not_scans {p l : Lexer} (same : SameScans p l) {r : Request}
    (noScan : r.scans l = false) :
    SameScans p (l.ask r).2 ∧
      l.lookahead.toList = (l.ask r).1.handed ++ (l.ask r).2.lookahead.toList := by
  have step := step_of_not_scans noScan
  have cursor := same.cursor.trans step.cursor.symm
  refine ⟨⟨same.dialect.trans step.dialect.symm, cursor, same.empty⟩, ?_⟩
  rw [step.tokens]
  cases l.lookahead <;> rfl

/-- **As many scans go as far**, and find the tokens handed out and kept. -/
theorem sameScans_run (requests : List Request) {p l : Lexer} (same : SameScans p l) :
    let session := Session.run ask requests l
    let scans := Session.run ask (List.replicate (scanCount requests l) .next) p
    SameScans scans.2 session.2 ∧
      l.lookahead.toList ++ handedOut scans.1 =
        handedOut session.1 ++ session.2.lookahead.toList := by
  induction requests generalizing p l with
  | nil => exact ⟨same, List.append_nil _⟩
  | cons r requests ih =>
    simp only [Session.run_cons, handedOut_cons, List.append_assoc]
    -- `p` answers only when `l` scans, so the two lists of answers are not of one
    -- length; what is compared are the tokens, with the one kept by `l` at each end.
    rcases scans : r.scans l with _ | _
    · have count : scanCount (r :: requests) l = scanCount requests (l.ask r).2 := by
        rw [scanCount, scans]; rfl
      obtain ⟨same', tokens⟩ := same.ask_of_not_scans scans
      obtain ⟨same'', others⟩ := ih same'
      rw [count]
      refine ⟨same'', ?_⟩
      rw [tokens, List.append_assoc, others]
    · have count : scanCount (r :: requests) l = scanCount requests (l.ask r).2 + 1 := by
        rw [scanCount, scans]; rfl
      have empty : l.lookahead = none := empty_of_scans scans
      obtain ⟨same', tokens⟩ := same.ask_of_scans scans
      obtain ⟨same'', others⟩ := ih same'
      rw [count, List.replicate_succ, Session.run_cons]
      refine ⟨same'', ?_⟩
      rw [handedOut_cons, tokens, empty, List.append_assoc, others]
      rfl

/-! ### A fresh lexer -/

/-- What a fresh lexer answers to some requests, and where that leaves it. -/
def dialogue (d : Dialect) (source : String) (requests : List Request) : List Answer × Lexer :=
  Session.run ask requests (ofText d source)

/-- **Scans decide where a lexer is**: as many scans for nothing but the next
token end at the same location, and hand out the same tokens or one more. -/
theorem location_dialogue (d : Dialect) (source : String) (requests : List Request) :
    let session := dialogue d source requests
    let scans := dialogue d source (.replicate (scanCount requests (ofText d source)) .next)
    session.2.location = scans.2.location ∧
      (handedOut scans.1 = handedOut session.1 ∨
        ∃ t, handedOut scans.1 = handedOut session.1 ++ [t]) := by
  intro session scans
  have fresh : SameScans (ofText d source) (ofText d source) := ⟨rfl, rfl, rfl⟩
  obtain ⟨same, tokens⟩ := sameScans_run requests fresh
  refine ⟨congrArg Cursor.location same.cursor.symm, ?_⟩
  have tokens : handedOut scans.1 = handedOut session.1 ++ session.2.lookahead.toList := tokens
  rw [tokens]
  rcases session.2.lookahead with _ | t
  · exact Or.inl (List.append_nil _)
  · exact Or.inr ⟨t, rfl⟩

/-- The first item left is the one behind the tokens consumed. -/
theorem getElem?_items {consumed : List Token} {left items : List Item}
    (parts : consumed.map .ok ++ left = items) : items[consumed.length]? = left.head? := by
  rw [← parts, List.getElem?_append_right (by simp)]
  simp [List.head?_eq_getElem?]

/-- **Lookahead is transparent.**  Let some requests to a fresh lexer take
`consumed` from it.

* As many scans for nothing but the next token end at the same location, and
  hand out the same tokens or one more.
* If no answer is an error, the tokens consumed and the items left are the items
  of the fresh lexer, and whatever is asked next is answered by the first item
  not consumed.  A lexer that was only asked for the tokens consumed answers the
  same.
-/
theorem dialogue_transparent (d : Dialect) (source : String) (requests : List Request) :
    let answers := (dialogue d source requests).1
    let l := (dialogue d source requests).2
    let consumed := handedOut answers
    let items := (ofText d source).items
    let scans := dialogue d source (.replicate (scanCount requests (ofText d source)) .next)
    let plain := dialogue d source (.replicate consumed.length .next)
    (l.location = scans.2.location ∧
      (handedOut scans.1 = consumed ∨ ∃ t, handedOut scans.1 = consumed ++ [t])) ∧
    ((∀ a ∈ answers, a.error? = none) →
      consumed.map .ok ++ l.items = items ∧
      tokenize d source = l.collect.1.map (consumed ++ ·) ∧
      (∀ r, (l.ask r).1 = .due r items[consumed.length]?) ∧
      handedOut plain.1 = consumed ∧ plain.2.nextToken.1 = .ofItem? items[consumed.length]?) := by
  intro answers l consumed items scans plain
  constructor
  · exact location_dialogue d source requests
  · intro noError
    obtain ⟨unfailed, left⟩ := items_run rfl noError
    have next : items[consumed.length]? = l.items.head? := getElem?_items left
    obtain ⟨handed, unfailed', left'⟩ := run_next rfl left.symm
    refine ⟨left, collect_of_items_append left, ?_, handed, ?_⟩
    · intro r
      rw [next]
      exact (serves_ask unfailed r).answer
    · rw [next]
      have served := (serves_ask unfailed' .next).answer
      rw [left'] at served
      exact Answer.next.inj served

/-- A word that is peeked at, taken, and followed by a number that is peeked
at. -/
theorem dialogue_transparent_word_number :
    let (answers, l) := dialogue .standard "a 1" [.peek, .atEnd, .next, .peek, .atEnd]
    (∀ a ∈ answers, a.error? = none) ∧
      tokenize .standard "a 1" = l.collect.1.map (handedOut answers ++ ·) := by
  have noError : ∀ a ∈ (dialogue .standard "a 1" [.peek, .atEnd, .next, .peek, .atEnd]).1,
      a.error? = none := by decide +kernel
  exact ⟨noError, ((dialogue_transparent .standard "a 1" _).2 noError).2.1⟩

end Lexer

end Lexis
