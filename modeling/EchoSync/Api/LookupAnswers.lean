import EchoSync.Api.FieldLookup

/-!
# API Server - When a lookup is right

A lookup owes the value of the field that has the key, and none when no field has it.  The
search answers this unless a string before the field imitates the key, or the key is a
separator or has a character that is written as an escape.

Main results:

- Theorem {lit}`answers_readField_iff`: the answers of the search that are right.
- Theorem {lit}`jsonStringValue_answers_iff`: the objects and keys on which the reader is a
  correct lookup.
-/

namespace EchoSync
namespace Api

/-- What a lookup owes: the value of the key, and none if no field has the key. -/
structure Answers (key : Text) (fields : List Field) (answer : Option Text) : Prop where
  present : ∀ value, (key, value) ∈ fields → answer = some value
  absent : key ∉ fields.map Prod.fst → answer = none

/-- From the end of a value, the next field is the one of the key, or a colon in its name
leads to the right answer. -/
def NextAnswers (key : Text) : List Field → Prop
  | [] => True
  | (name, value) :: fields =>
      match afterFirst [':'] name with
      | none => (key, value) ∈ (name, value) :: fields
      | some behind =>
          if Blank behind then (key, [':']) ∈ (name, value) :: fields
          else key ∉ ((name, value) :: fields).map Prod.fst

/-- From the start of a value, the same, where the value can have a colon as well. -/
def FromAnswers (key value : Text) (fields : List Field) : Prop :=
  match afterFirst [':'] value with
  | none => NextAnswers key fields
  | some behind =>
      if Blank behind ∧ fields ≠ [] then (key, [',']) ∈ fields else key ∉ fields.map Prod.fst

/-- The first string that ends in the key is a name with the value of the key, or a value from
the end of which the answer is right; a key that is a separator is found at the first one. -/
def FieldAnswers (key : Text) : List Field → Prop
  | [] => True
  | (name, value) :: fields =>
      if EndsIn key name then (key, value) ∈ (name, value) :: fields
      else if key = [':'] then FromAnswers key value fields
      else if EndsIn key value ∨ key = [','] then NextAnswers key fields
      else FieldAnswers key fields

/-- A key that is written as it is leads to the right answer; one that is not has no field. -/
def LooksUp (key : Text) (fields : List Field) : Prop :=
  if Plain key then FieldAnswers key fields else key ∉ fields.map Prod.fst

section Answers

variable {key : Text} {fields : List Field}

/-! ## Right answers -/

theorem answers_none_iff : Answers key fields none ↔ key ∉ fields.map Prod.fst := by
  constructor
  · intro h hmem
    rcases List.mem_map.mp hmem with ⟨⟨name, value⟩, hfield, rfl⟩
    exact absurd (h.present value hfield) (Option.some_ne_none value).symm
  · intro hmem
    refine ⟨?_, fun _ => rfl⟩
    intro value hfield
    exact absurd (List.mem_map_of_mem hfield) hmem

/-- Fields with distinct names have one value for a key. -/
theorem value_unique (hdistinct : (fields.map Prod.fst).Nodup) {value value' : Text}
    (h : (key, value) ∈ fields) (h' : (key, value') ∈ fields) : value = value' := by
  have hsame := List.inj_on_of_nodup_map hdistinct h h' rfl
  exact (Prod.mk.inj hsame).2

theorem answers_some_iff (hdistinct : (fields.map Prod.fst).Nodup) {value : Text} :
    Answers key fields (some value) ↔ (key, value) ∈ fields := by
  constructor
  · intro h
    by_cases hmem : key ∈ fields.map Prod.fst
    · rcases List.mem_map.mp hmem with ⟨⟨name, value'⟩, hfield, rfl⟩
      rw [Option.some.inj (h.present value' hfield)]
      exact hfield
    · exact absurd (h.absent hmem) (Option.some_ne_none value)
  · intro hfield
    refine ⟨?_, ?_⟩
    · intro value' hfield'
      rw [value_unique hdistinct hfield hfield']
    · intro hmem
      exact absurd (List.mem_map_of_mem hfield) hmem

/-- A field with another name does not matter. -/
theorem answers_cons_iff {name value : Text} (hne : name ≠ key) {answer : Option Text} :
    Answers key ((name, value) :: fields) answer ↔ Answers key fields answer := by
  have hfield : ∀ value', (key, value') ∈ (name, value) :: fields ↔ (key, value') ∈ fields := by
    intro value'
    simp [Ne.symm hne]
  have hname : key ∉ ((name, value) :: fields).map Prod.fst ↔ key ∉ fields.map Prod.fst := by
    simp [Ne.symm hne]
  constructor
  · intro h
    exact ⟨fun value' h' => h.present value' ((hfield value').mpr h'),
      fun h' => h.absent (hname.mpr h')⟩
  · intro h
    exact ⟨fun value' h' => h.present value' ((hfield value').mp h'),
      fun h' => h.absent (hname.mp h')⟩

/-! ## Right answers of the search -/

theorem answers_readNext_iff (hdistinct : (fields.map Prod.fst).Nodup) :
    Answers key fields (readNext fields) ↔ NextAnswers key fields := by
  cases fields with
  | nil => exact iff_of_true (answers_none_iff.mpr List.not_mem_nil) trivial
  | cons field fields =>
      rcases field with ⟨name, value⟩
      rw [readNext, NextAnswers]
      cases afterFirst [':'] name with
      | none => exact answers_some_iff hdistinct
      | some behind =>
          dsimp only
          split_ifs
          · exact answers_some_iff hdistinct
          · exact answers_none_iff

theorem answers_readFrom_iff (hdistinct : (fields.map Prod.fst).Nodup) (value : Text) :
    Answers key fields (readFrom value fields) ↔ FromAnswers key value fields := by
  unfold readFrom FromAnswers
  cases afterFirst [':'] value with
  | none => exact answers_readNext_iff hdistinct
  | some behind =>
      dsimp only
      split_ifs
      · exact answers_some_iff hdistinct
      · exact answers_none_iff

/-- The answers of the search that are right. -/
theorem answers_readField_iff (hdistinct : (fields.map Prod.fst).Nodup) :
    Answers key fields (readField key fields) ↔ FieldAnswers key fields := by
  induction fields with
  | nil => exact iff_of_true (answers_none_iff.mpr List.not_mem_nil) trivial
  | cons field fields ih =>
      rcases field with ⟨name, value⟩
      have hrest : (fields.map Prod.fst).Nodup := (List.nodup_cons.mp hdistinct).2
      unfold readField FieldAnswers
      split_ifs with hname hcolon hvalue
      · exact answers_some_iff hdistinct
      all_goals
        have hne : name ≠ key := fun hsame => hname ((endsIn_iff key name).mpr (Or.inl hsame))
        rw [answers_cons_iff hne]
      · exact answers_readFrom_iff hrest value
      · exact answers_readNext_iff hrest
      · exact ih hrest

/-- Where no value ends in the key, and no name but the key does, the search is right. -/
theorem looksUp_of_unambiguous (hplain : Plain key) (hcolon : key ≠ [':']) (hcomma : key ≠ [','])
    (hname : ∀ field ∈ fields, EndsIn key field.1 → field.1 = key)
    (hvalue : ∀ field ∈ fields, ¬ EndsIn key field.2) : LooksUp key fields := by
  rw [LooksUp, if_pos hplain]
  induction fields with
  | nil => trivial
  | cons field fields ih =>
      rcases field with ⟨name, value⟩
      rw [List.forall_mem_cons] at hname hvalue
      unfold FieldAnswers
      split_ifs with hends hnext
      · have hsame : name = key := hname.1 hends
        rw [hsame]
        exact List.mem_cons_self
      · exact absurd hnext (not_or.mpr ⟨hvalue.1, hcomma⟩)
      · exact ih hname.2 hvalue.2

/-! ## Keys with an escape -/

/-- A character that is written as an escape, and is not in the escapes. -/
structure Escaped (ch : Char) : Prop where
  escaped : escapeChar ch ≠ [ch]
  notQuote : ch ≠ '"'
  notBackslash : ch ≠ '\\'

theorem Escaped.notMem_of_plain {ch : Char} (h : Escaped ch) {text : Text} (htext : Plain text) :
    ch ∉ text := by
  intro hmem
  exact h.escaped (htext ch hmem)

/-- Such a character is not in what is written for a string. -/
theorem Escaped.notMem_quoted {ch : Char} (h : Escaped ch) (s : Text) : ch ∉ quoted s := by
  have hescapes : ch ∉ ['n', 'r', 't'] := h.notMem_of_plain (by decide)
  have hescape : ch ∉ jsonEscape s := by
    intro hmem
    rcases List.mem_flatMap.mp hmem with ⟨written, -, hwritten⟩
    rcases mem_escapeChar hwritten with ⟨rfl, hplain⟩ | hother
    · exact h.escaped hplain
    · rw [List.mem_cons, List.mem_cons] at hother
      rcases hother with hother | hother | hother
      · exact h.notBackslash hother
      · exact h.notQuote hother
      · exact hescapes hother
  simp [quoted, h.notQuote, hescape]

theorem Escaped.notMem_fieldsText {ch : Char} (h : Escaped ch) {close : Text}
    (hclose : ch ∉ close) (fields : List Field) : ch ∉ fieldsText close fields := by
  induction fields with
  | nil => exact hclose
  | cons field fields ih =>
      rcases field with ⟨name, value⟩
      have hbehind : ch ∉ behindValue close fields := by
        cases fields with
        | nil => exact hclose
        | cons field fields =>
            rw [behindValue, List.mem_append, not_or]
            exact ⟨h.notMem_of_plain (by decide), ih⟩
      simp only [fieldsText_cons, List.mem_append, not_or]
      exact ⟨h.notMem_quoted name, h.notMem_of_plain (by decide), h.notMem_quoted value, hbehind⟩

/-- A key with such a character is found nowhere. -/
theorem jsonStringValue_of_not_plain (hquote : '"' ∉ key) (hbackslash : '\\' ∉ key)
    (hkey : ¬ Plain key) : jsonStringValue (objectJson fields) key = none := by
  have hexists : ∃ ch ∈ key, escapeChar ch ≠ [ch] := by
    simpa [Plain] using hkey
  rcases hexists with ⟨ch, hmem, hescaped⟩
  have hch : Escaped ch :=
    ⟨hescaped, fun hsame => hquote (hsame ▸ hmem), fun hsame => hbackslash (hsame ▸ hmem)⟩
  have hnone : afterFirst (keyPattern key) (objectJson fields) = none := by
    apply @afterFirst_eq_none _ _ ch
    · simp [keyPattern, hmem]
    · rw [objectJson, List.mem_append, not_or]
      exact ⟨hch.notMem_of_plain (by decide), hch.notMem_fieldsText
        (hch.notMem_of_plain (by decide)) fields⟩
  rw [jsonStringValue_eq, hnone, Option.bind_none]

/-! ## The lookup -/

/-- For every list of fields with distinct names and every key without quotes and backslashes,
the reader is a correct lookup of the key in the JSON of the fields exactly when the first
string that imitates the key leads to the right answer. -/
theorem jsonStringValue_answers_iff (hdistinct : (fields.map Prod.fst).Nodup)
    (hquote : '"' ∉ key) (hbackslash : '\\' ∉ key) :
    Answers key fields (jsonStringValue (objectJson fields) key) ↔ LooksUp key fields := by
  unfold LooksUp
  split_ifs with hkey
  · rw [jsonStringValue_objectJson hkey]
    exact answers_readField_iff hdistinct
  · rw [jsonStringValue_of_not_plain hquote hbackslash hkey]
    exact answers_none_iff

end Answers

/-- The body of a request that creates a room, where the host has the name of the first key. -/
theorem jsonStringValue_answers_iff_names :
    jsonStringValue
      (objectJson [("roomName".toList, "Kitchen".toList), ("hostName".toList, "Room".toList)])
      "hostName".toList = some "Room".toList :=
  ((jsonStringValue_answers_iff (by decide) (by decide) (by decide)).mpr
    (looksUp_of_unambiguous (by decide) (by decide) (by decide) (by decide) (by decide))).present
    _ (by decide)

/-- A host whose name is the key of the room name, and another field behind it: the value of
that field is answered for the room name, which the body does not have. -/
theorem value_imitates_key :
    ¬ ∀ (fields : List Field) (key : Text), (fields.map Prod.fst).Nodup → '"' ∉ key →
      '\\' ∉ key → Answers key fields (jsonStringValue (objectJson fields) key) := by
  intro h
  have hanswers := h [("hostName".toList, "roomName".toList), ("id".toList, "7".toList)]
    "roomName".toList (by decide) (by decide) (by decide)
  have habsent := hanswers.absent (by decide)
  exact absurd habsent (by decide +kernel)

end Api
end EchoSync
