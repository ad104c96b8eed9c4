import Lexis.Proofs.Json.Skipping
import Lexis.Proofs.Json.Writing
import Lexis.Proofs.Settings

/-!
# Dialects as overrides

Reading a dialect from an object takes the standard dialect and replaces the fields
that the object sets, and no other (`Dialect.ofText_of_describes`).

* **What an object says of a dialect** is told by `Dialect.Describes` without reading
  it: its members set fields as the dialect has them, or are of no concern, and each
  field is set at most once.  They stand in any order, with any blanks and any
  spelling of their strings.
* **What is of no concern** only has to be well-formed; its strings need no meaning
  and its numbers no value.
* **What is written describes all of it**, so writing and reading back gives the same
  dialect, in either layout.
-/

namespace Lexis

open Json

namespace Dialect

/-! ### Overriding -/

/-- The standard dialect with the given fields as `d` has them. -/
def overriding (d : Dialect) (fields : List Field) : Dialect where
  keywords := if .keywords ∈ fields then d.keywords else standard.keywords
  punctuation := if .punctuation ∈ fields then d.punctuation else standard.punctuation
  operators := if .operators ∈ fields then d.operators else standard.operators
  stringDelimiter := if .stringDelimiter ∈ fields then d.stringDelimiter else standard.stringDelimiter
  commentMarker := if .commentMarker ∈ fields then d.commentMarker else standard.commentMarker
  escapeMode := if .escapeMode ∈ fields then d.escapeMode else standard.escapeMode
  strictStrings := if .strictStrings ∈ fields then d.strictStrings else standard.strictStrings

/-- A dialect is what it has for each field. -/
theorem ext_get {d d' : Dialect} (same : ∀ f, d.get f = d'.get f) : d = d' := by
  have keywords := same .keywords
  have punctuation := same .punctuation
  have operators := same .operators
  have stringDelimiter := same .stringDelimiter
  have commentMarker := same .commentMarker
  have escapeMode := same .escapeMode
  have strictStrings := same .strictStrings
  cases d
  cases d'
  simp_all [get]

theorem get_overriding (d : Dialect) (fields : List Field) (f : Field) :
    (d.overriding fields).get f = if f ∈ fields then d.get f else standard.get f := by
  cases f <;> simp only [get, overriding] <;> split <;> rfl

theorem overriding_all (d : Dialect) : d.overriding Field.all = d := by
  apply ext_get
  intro f
  rw [get_overriding, if_pos (by cases f <;> decide)]

/-- The settings that a dialect has for some fields, made one after the other,
replace these fields and no other. -/
theorem get_foldl_set (d base : Dialect) (fields : List Field) (f : Field) :
    ((fields.map d.get).foldl set base).get f = if f ∈ fields then d.get f else base.get f := by
  induction fields generalizing base with
  | nil => rfl
  | cons g fields ih =>
    rw [List.map_cons, List.foldl_cons, ih, get_set, field_get]
    by_cases later : f ∈ fields
    · simp [later]
    · by_cases here : f = g <;> simp [later, here]

theorem ofSettings_get (d : Dialect) (fields : List Field) :
    ofSettings (fields.map d.get) = d.overriding fields := by
  apply ext_get
  intro f
  rw [ofSettings, get_foldl_set, get_overriding]

/-! ### Descriptions -/

/-- A member of an object that describes `d`, and the field it sets. -/
inductive Member (d : Dialect) : Option Field → List Char → Prop
  | setting {f : Field} {value text : List Char}
      (item : Grammar Meant (.item (d.get f).toJson) value)
      (keyed : Keyed Meant f.key value text) : Member d (some f) text
  | other {key : String} {j : Json} {value text : List Char} (unknown : ∀ f : Field, f.key ≠ key)
      (item : Grammar (fun _ body => Passable body) (.item j) value)
      (keyed : Keyed Meant key value text) : Member d none text

/-- One member or more, with commas between, and the fields they set. -/
inductive Members (d : Dialect) : List (Option Field) → List Char → Prop
  | last {f : Option Field} {text : List Char} (member : d.Member f text) : Members d [f] text
  | more {f : Option Field} {fs : List (Option Field)} {text behind : List Char}
      (member : d.Member f text) (more : Members d fs behind) :
      Members d (f :: fs) (text ++ ',' :: behind)

/-- **The text is an object that describes `d`**: it sets the given fields as `d` has
them, each of them once, and may have other members. -/
inductive Describes (d : Dialect) : List Field → List Char → Prop
  | empty {front inside back : List Char} (blank : Blank front) (blank' : Blank inside)
      (blank'' : Blank back) :
      Describes d [] (front ++ '\x7b' :: (inside ++ '\x7d' :: back))
  | object {fs : List (Option Field)} {front inside back : List Char} (blank : Blank front)
      (members : d.Members fs inside) (once : (fs.filterMap id).Nodup) (blank' : Blank back) :
      Describes d (fs.filterMap id) (front ++ '\x7b' :: (inside ++ '\x7d' :: back))

/-! ### Reading members -/

section Members

variable {d : Dialect} {i k : Input} {first : Bool} {read : List Setting} {text rest : List Char}

theorem readMembersOnto_end (ended : nextKey first i = .ok (none, k)) :
    readMembersOnto first read i = .ok (read.reverse, k.next) := by
  rw [readMembersOnto]
  split
  · next failed => simp [ended] at failed
  · next found =>
    obtain ⟨-, rfl⟩ := Prod.mk.inj (Except.ok.inj (found.symm.trans ended))
    rfl
  · next found => simp [ended] at found

theorem readMembersOnto_other {key : String} (found : nextKey first i = .ok (some key, k))
    (unknown : Field.ofKey? key = none) :
    readMembersOnto first read i =
      ((readColon k).bind skipValue).bind (readMembersOnto false read) := by
  rw [readMembersOnto]
  split
  · next failed => simp [found] at failed
  · next ended => simp [ended] at found
  · next found' =>
    obtain ⟨key', rfl⟩ := Prod.mk.inj (Except.ok.inj (found'.symm.trans found))
    obtain rfl := Option.some.inj key'
    split
    · split
      · next failed => rw [failed]; rfl
      · next passed => rw [passed]; rfl
    · next known => simp [unknown] at known

theorem readMembersOnto_field {f : Field} (found : nextKey first i = .ok (some f.key, k))
    (fresh : read.any (·.field = f) = false) :
    readMembersOnto first read i =
      ((readColon k).bind fun i => readSetting i f).bind fun r =>
        readMembersOnto false (r.1 :: read) r.2 := by
  rw [readMembersOnto]
  split
  · next failed => simp [found] at failed
  · next ended => simp [ended] at found
  · next found' =>
    obtain ⟨key, rfl⟩ := Prod.mk.inj (Except.ok.inj (found'.symm.trans found))
    obtain rfl := Option.some.inj key
    split
    · next unknown => simp [Field.ofKey?_key] at unknown
    · next known =>
      obtain rfl := Option.some.inj (known.symm.trans (Field.ofKey?_key f))
      rw [fresh, if_neg Bool.false_ne_true]
      split
      · next failed => rw [failed]; rfl
      · next taken => rw [taken]; rfl

theorem ofKey?_of_unknown {key : String} (unknown : ∀ f : Field, f.key ≠ key) :
    Field.ofKey? key = none := by
  simp [Field.ofKey?, unknown]

/-- **One member is read**: the field it sets comes in front of the settings read so
far. -/
theorem readMembersOnto_member {f : Option Field} {lead behind : List Char}
    (member : d.Member f text) (leads : Leads first lead) (here : i.rest = lead ++ (text ++ behind))
    (ends : NumberEnds behind) (fresh : ∀ g ∈ f, read.any (·.field = g) = false) :
    ∃ gap m, Blank gap ∧ m.rest = gap ++ behind ∧
      readMembersOnto first read i = readMembersOnto false ((f.map d.get).toList ++ read) m := by
  cases member with
  | @setting f value _ item keyed =>
    obtain ⟨gap, blank, k, found, colon⟩ := nextKey_gives keyed leads here
    obtain ⟨m, parted, value⟩ := readColon_passes blank colon
    have taken := readSetting_gives item value
    rw [field_get] at taken
    obtain ⟨gap', blank', n, taken, left⟩ := taken
    refine ⟨gap', n, blank', left, ?_⟩
    rw [readMembersOnto_field found (fresh f rfl), parted]
    simp only [Except.bind, taken]
    rfl
  | other unknown item keyed =>
    obtain ⟨gap, blank, k, found, colon⟩ := nextKey_gives keyed leads here
    obtain ⟨m, parted, value⟩ := readColon_passes blank colon
    obtain ⟨gap', blank', n, passed, left⟩ := skipValue_passes item value ends
    refine ⟨gap', n, blank', left, ?_⟩
    rw [readMembersOnto_other found (ofKey?_of_unknown unknown), parted]
    simp only [Except.bind, passed]
    rfl

/-- **The members of an object are read in their order**, behind the settings read
before. -/
theorem readMembersOnto_gives {fs : List (Option Field)} {lead : List Char}
    (members : d.Members fs text) (leads : Leads first lead)
    (here : i.rest = lead ++ (text ++ '\x7d' :: rest)) (once : (fs.filterMap id).Nodup)
    (fresh : ∀ g ∈ fs.filterMap id, read.any (·.field = g) = false) :
    Gives (readMembersOnto first read i) (read.reverse ++ (fs.filterMap id).map d.get) rest := by
  -- By the members: each field that is set is new to the settings read so far, and so
  -- are the fields behind it.
  induction members generalizing first read lead i with
  | @last f text member =>
    obtain ⟨gap, m, blank, left, eq⟩ := readMembersOnto_member member leads here
      (ends_cons (by decide) _) (by intro g mem; exact fresh g (by simp [Option.mem_def.mp mem]))
    obtain ⟨k, ended, left'⟩ := nextKey_end false blank left
    rw [eq, readMembersOnto_end ended]
    refine ⟨k.next, ?_, Input.rest_next_of_rest left'⟩
    cases f <;> simp
  | @more f fs text behind member _ ih =>
    rw [List.append_assoc] at here
    obtain ⟨gap, m, blank, left, eq⟩ := readMembersOnto_member member leads here
      (ends_cons (by decide) _) (by intro g mem; exact fresh g (by simp [Option.mem_def.mp mem]))
    have here' : m.rest = (gap ++ [',']) ++ (behind ++ '\x7d' :: rest) := by simpa using left
    rw [eq]
    cases f with
    | none => simpa using ih (.later blank) here' (by simpa using once) (by simpa using fresh)
    | some f =>
      obtain ⟨new, once⟩ := List.nodup_cons.mp once
      have fresh' : ∀ g ∈ fs.filterMap id, (d.get f :: read).any (·.field = g) = false := by
        intro g mem
        have other : f ≠ g := by
          rintro rfl
          exact new mem
        have := fresh g (by simpa using Or.inr (by simpa using mem))
        simpa [other] using this
      simpa using ih (.later blank) here' once fresh'

end Members

/-! ### Reading objects -/

variable {d : Dialect} {fields : List Field} {text : List Char}

/-- Blanks behind an object are the end of the text. -/
theorem ofText_of_readSettings {settings : List Setting} {gap : List Char} (blank : Blank gap)
    (read : Gives (readSettings (Input.ofText (String.ofList text))) settings gap) :
    ofText (String.ofList text) = .ok (ofSettings settings) := by
  obtain ⟨k, read, left⟩ := read
  simp [ofText, read, Input.peek_skipSpace blank left, bind, Except.bind]

/-- **Reading takes the standard dialect and overrides what is set.** -/
theorem Describes.ofText_eq (h : d.Describes fields text) :
    ofText (String.ofList text) = .ok (d.overriding fields) := by
  rw [← ofSettings_get]
  have here : (Input.ofText (String.ofList text)).rest = text := String.toList_ofList
  cases h with
  | empty blank blank' blank'' =>
    have brace := Input.rest_skipSpace blank (ends_cons (by decide) _) here
    obtain ⟨k, ended, left⟩ := nextKey_end true blank' (Input.rest_next_of_rest brace)
    apply ofText_of_readSettings blank''
    simp only [readSettings, Input.peek_of_rest brace, if_pos, readMembersOnto_end ended]
    exact ⟨k.next, rfl, Input.rest_next_of_rest left⟩
  | object blank members once blank' =>
    have brace := Input.rest_skipSpace blank (ends_cons (by decide) _) here
    apply ofText_of_readSettings blank'
    simp only [readSettings, Input.peek_of_rest brace, if_pos]
    exact readMembersOnto_gives members .first (Input.rest_next_of_rest brace) once (by simp)

/-! ### Writing -/

theorem proper_toJson (s : Setting) : Proper s.toJson := by
  cases s with
  | keywords words =>
    refine .array ?_
    intro j mem
    obtain ⟨word, -, rfl⟩ := List.mem_map.mp mem
    exact .string word
  | punctuation | operators | stringDelimiter | commentMarker | escapeMode => exact .string _
  | strictStrings strict => exact .bool strict

/-- Some fields of a dialect as JSON. -/
def fieldsToJson (d : Dialect) (fields : List Field) : Json :=
  .object (fields.map fun f => (f.key, (d.get f).toJson))

/-- The members of a phrase that are fields of `d` describe `d`. -/
theorem members_of_grammar (nonempty : fields ≠ [])
    (h : Grammar Meant (.members (fields.map fun f => (f.key, (d.get f).toJson))) text) :
    d.Members (fields.map some) text := by
  induction fields generalizing text with
  | nil => exact absurd rfl nonempty
  | cons f fields ih =>
    cases fields with
    | nil =>
      cases h with
      | lastMember member =>
        cases member with
        | member item keyed => exact .last (.setting item keyed)
      | moreMembers _ none => cases none
    | cons g fields =>
      cases h with
      | moreMembers member behind =>
        cases member with
        | member item keyed => exact .more (.setting item keyed) (ih (by simp) behind)

/-- **What is written for some fields describes them**, in the order they are written
in. -/
theorem describes_write (d : Dialect) (once : fields.Nodup) (l : Layout) :
    d.Describes fields ((d.fieldsToJson fields).write l) := by
  have proper : Proper (d.fieldsToJson fields) := by
    refine .object ?_
    intro m mem
    obtain ⟨f, -, rfl⟩ := List.mem_map.mp mem
    exact proper_toJson _
  have denotes := denotes_write proper l
  generalize (d.fieldsToJson fields).write l = text at denotes
  unfold fieldsToJson at denotes
  generalize members : (fields.map fun f => (f.key, (d.get f).toJson)) = ms at denotes
  cases denotes with
  | noMembers blank =>
    obtain rfl : fields = [] := by simpa using members
    exact .empty blank_nil blank blank_nil
  | object inside =>
    subst members
    have nonempty : fields ≠ [] := by
      rintro rfl
      cases inside
    have same : (fields.map some).filterMap id = fields := by simp
    have described := Describes.object blank_nil (members_of_grammar nonempty inside)
      (by rwa [same]) blank_nil
    rwa [same] at described

/-- **Decoding overrides the standard dialect field by field**, and undoes encoding. -/
theorem ofText_of_describes {source : String} (described : d.Describes fields source.toList) :
    ofText source = .ok (d.overriding fields) ∧
      ofText d.toJson.compact = .ok d ∧ ofText d.toJson.pretty = .ok d := by
  have all (l : Layout) : ofText (String.ofList (d.toJson.write l)) = .ok d := by
    have whole := (describes_write d (by decide : Field.all.Nodup) l).ofText_eq
    rwa [overriding_all] at whole
  have read := described.ofText_eq
  rw [String.ofList_toList] at read
  exact ⟨read, all .compact, all (.indented 0)⟩

/-- Two fields are set, not in their order, one of them by a code-unit escape; the first
member is of no concern and holds a number out of range and half of a pair. -/
theorem ofText_of_describes_two_fields :
    let d := { standard with keywords := [], stringDelimiter := '"', strictStrings := true }
    let source := "\x7b\"x\": [1e999, \"\\uD800\"], \"strict_strings\":true," ++
      "\"string_delimiter\":\"\\u0022\"\x7d\n"
    d.Describes [.strictStrings, .stringDelimiter] source.toList ∧
      ofText source = .ok { standard with stringDelimiter := '"', strictStrings := true } := by
  intro d source
  have space : Blank [' '] := blank_singleton (by decide)
  have feed : Blank ['\n'] := blank_singleton (by decide)
  have wide : Numeric ([] ++ (['1'] ++ ([] ++ 'e' :: ([] ++ ['9', '9', '9'])))) :=
    .intro (.inl rfl) (.digits (by decide) (List.all_eq_true.mp rfl)) .absent
      (.present (.inl rfl) (.inl rfl) (by decide) (List.all_eq_true.mp rfl))
  have half : Passable ('\\' :: 'u' :: (['D', '8', '0', '0'] ++ [])) :=
    .unit (u := 0xD800) ⟨rfl, by decide⟩ .nil
  have quote : Meant ('"').toString ('\\' :: 'u' :: (['0', '0', '2', '2'] ++ [])) := by
    have spelled : Spells [Char.ofNat 0x22] ('\\' :: 'u' :: (['0', '0', '2', '2'] ++ [])) :=
      .unit ⟨rfl, by decide⟩ (by decide) (by decide) .nil
    simpa [Meant] using spelled
  have unknown : ∀ f : Field, f.key ≠ "x" := by
    intro f
    cases f <;> decide
  have other : d.Member none _ :=
    .other unknown
      (.item space (.array (.moreItems (.item blank_nil (.number wide) blank_nil)
        (.lastItem (.item space (.string (s := "") half) blank_nil)))) blank_nil)
      (.intro blank_nil (spells_escape "x".toList) blank_nil)
  have strict : d.Member (some .strictStrings) _ :=
    .setting (.item blank_nil (.bool true) blank_nil)
      (.intro space (spells_escape "strict_strings".toList) blank_nil)
  have delimiter : d.Member (some .stringDelimiter) _ :=
    .setting (.item blank_nil (.string quote) blank_nil)
      (.intro blank_nil (spells_escape "string_delimiter".toList) blank_nil)
  have described : d.Describes [.strictStrings, .stringDelimiter] source.toList := by
    convert Describes.object blank_nil (.more other (.more strict (.last delimiter)))
      (by decide) feed using 1
    · rfl
    · decide +kernel
  exact ⟨described, (ofText_of_describes described).1⟩

end Dialect

end Lexis
