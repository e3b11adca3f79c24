import EchoSync.Api.KeySearch

/-!
# API Server - Reading a field

What the reader answers on the JSON of an object whose values are strings, in terms of the
fields of the object.

Main results:

- Theorem {lit}`search_fieldsText`: the answer of the search in terms of the fields.
- Theorem {lit}`roomJson_fields`: the fields of a room are read back from its JSON.
-/

namespace EchoSync
namespace Api

/-- The name and the value of a field. -/
abbrev Field := Text × Text

/-- One field of an object. -/
def member (field : Field) : Text :=
  quoted field.1 ++ ':' :: quoted field.2

/-- The fields of an object, separated by commas, and what closes it. -/
def fieldsText (close : Text) (fields : List Field) : Text :=
  List.intercalate [','] (fields.map member) ++ close

/-- The JSON of an object. -/
def objectJson (fields : List Field) : Text :=
  ['{'] ++ fieldsText ['}'] fields

/-! ## The answer in terms of the fields -/

/-- What is read from the end of a value, before the fields that follow it. -/
def readNext : List Field → Option Text
  | [] => none
  | (name, value) :: _ =>
      match afterFirst [':'] name with
      | none => some value
      | some behind => if Blank behind then some [':'] else none

/-- What is read from the start of a value. -/
def readFrom (value : Text) (fields : List Field) : Option Text :=
  match afterFirst [':'] value with
  | none => readNext fields
  | some behind => if Blank behind ∧ fields ≠ [] then some [','] else none

/-- What the reader answers for a key: the value of the first field whose name ends in the
key, unless the key is a separator or a value ends in it before. -/
def readField (key : Text) : List Field → Option Text
  | [] => none
  | (name, value) :: fields =>
      if EndsIn key name then some value
      else if key = [':'] then readFrom value fields
      else if EndsIn key value ∨ key = [','] then readNext fields
      else readField key fields

/-- What follows a value. -/
def behindValue (close : Text) : List Field → Text
  | [] => close
  | field :: fields => [','] ++ fieldsText close (field :: fields)

theorem fieldsText_cons (close name value : Text) (fields : List Field) :
    fieldsText close ((name, value) :: fields) =
      quoted name ++ ([':'] ++ (quoted value ++ behindValue close fields)) := by
  cases fields with
  | nil => simp [fieldsText, behindValue, member, List.intercalate]
  | cons field fields =>
      simp [fieldsText, behindValue, member, List.intercalate]

section Search

variable {close : Text}

/-- A text without a quote holds no value. -/
theorem scanValue_of_notMem {text : Text} (h : '"' ∉ text) (value : Text) :
    scanValue value text = none := by
  fun_induction scanValue value text with
  | case1 value => rfl
  | case2 value chars => exact absurd List.mem_cons_self h
  | case3 value => rfl
  | case4 value escaped chars _ ih =>
      exact ih (List.not_mem_of_not_mem_cons (List.not_mem_of_not_mem_cons h))
  | case5 value ch chars _ _ ih => exact ih (List.not_mem_of_not_mem_cons h)

/-- From the end of a string, the separator is taken for a value. -/
theorem scanValue_separator {ch : Char} (hquote : ch ≠ '"') (hbackslash : ch ≠ '\\')
    (s rest : Text) : scanValue [] (ch :: (quoted s ++ rest)) = some [ch] := by
  rw [scanValue_other [] hquote hbackslash, quoted, List.cons_append, scanValue_quote,
    List.nil_append]

/-- From the start of a name, the value is read unless there is a colon in the name. -/
theorem readBehind_name (name value rest : Text) (fields : List Field) :
    readBehind (jsonEscape name ++ '"' :: (':' :: (quoted value ++ rest))) =
      readNext ((name, value) :: fields) := by
  rw [readBehind_string, readBehind_colon, scanValue_separator (by decide) (by decide)]
  rfl

theorem readBehind_behindValue (hclose : ':' ∉ close) (fields : List Field) :
    readBehind (behindValue close fields) = readNext fields := by
  cases fields with
  | nil => exact readBehind_of_notMem hclose
  | cons field fields =>
      rcases field with ⟨name, value⟩
      have htext : behindValue close ((name, value) :: fields) = [',', '"'] ++
          (jsonEscape name ++ '"' :: (':' :: (quoted value ++ behindValue close fields))) := by
        rw [behindValue, fieldsText_cons]
        simp [quoted]
      rw [htext, readBehind_append (by decide), readBehind_name name value _ fields]

theorem readBehind_value (hquote : '"' ∉ close) (hcolon : ':' ∉ close) (value : Text)
    (fields : List Field) :
    readBehind (jsonEscape value ++ '"' :: behindValue close fields) = readFrom value fields := by
  have hscan : scanValue [] (behindValue close fields) =
      if fields ≠ [] then some [','] else none := by
    cases fields with
    | nil => exact scanValue_of_notMem hquote []
    | cons field fields =>
        rcases field with ⟨name, value⟩
        rw [behindValue, fieldsText_cons, List.singleton_append,
          scanValue_separator (by decide) (by decide)]
        rfl
  rw [readBehind_string, readBehind_behindValue hcolon, hscan, readFrom]
  cases afterFirst [':'] value with
  | none => rfl
  | some behind => simp only [ite_and]

/-- From the closing quote of a value, the search ends at the comma or goes on at the next
field. -/
theorem search_behindValue {key : Text} (hkey : Plain key) (hquote : '"' ∉ close)
    (fields : List Field) :
    (afterFirst (keyPattern key) ('"' :: behindValue close fields)).bind readBehind =
      if key = [','] then readNext fields
      else (afterFirst (keyPattern key) (fieldsText close fields)).bind readBehind := by
  cases fields with
  | nil =>
      have hempty : fieldsText close [] = close := rfl
      rw [behindValue, afterFirst_last hquote, hempty, afterFirst_of_notMem_quote hquote]
      split_ifs
      · rfl
      · rfl
  | cons field fields =>
      rcases field with ⟨name, value⟩
      rw [behindValue, fieldsText_cons, @afterFirst_separator _ hkey.notMem_quote [','] (by decide)]
      by_cases hcomma : key = [',']
      · rw [if_pos hcomma, if_pos hcomma.symm, Option.bind_some]
        exact readBehind_name name value _ fields
      · rw [if_neg hcomma, if_neg (Ne.symm hcomma)]

/-- The answer of the search in terms of the fields. -/
theorem search_fieldsText {key : Text} (hkey : Plain key) (hquote : '"' ∉ close)
    (hcolon : ':' ∉ close) (fields : List Field) :
    (afterFirst (keyPattern key) (fieldsText close fields)).bind readBehind =
      readField key fields := by
  induction fields with
  | nil =>
      have hempty : fieldsText close [] = close := rfl
      rw [hempty, afterFirst_of_notMem_quote hquote]
      rfl
  | cons field fields ih =>
      rcases field with ⟨name, value⟩
      rw [fieldsText_cons, readField, afterFirst_quoted hkey,
        @afterFirst_separator _ hkey.notMem_quote [':'] (by decide), afterFirst_quoted hkey]
      by_cases hname : EndsIn key name
      · rw [if_pos hname, if_pos hname]
        exact readBehind_colon value _
      · rw [if_neg hname, if_neg hname]
        by_cases hsep : key = [':']
        · rw [if_pos hsep, if_pos hsep.symm, Option.bind_some, readBehind_value hquote hcolon]
        · rw [if_neg hsep, if_neg (Ne.symm hsep)]
          by_cases hvalue : EndsIn key value
          · rw [if_pos hvalue, if_pos (Or.inl hvalue), Option.bind_some,
              readBehind_behindValue hcolon]
          · rw [if_neg hvalue, search_behindValue hkey hquote, ih]
            simp only [hvalue, false_or]

/-- What the reader answers on an object, in terms of its fields. -/
theorem jsonStringValue_objectJson {key : Text} (hkey : Plain key) (fields : List Field) :
    jsonStringValue (objectJson fields) key = readField key fields := by
  rw [jsonStringValue_eq, objectJson, @afterFirst_skip key ['{'] (by decide)]
  exact search_fieldsText hkey (by decide) (by decide) fields

end Search

/-! ## The fields of a room -/

/-- The fields of the JSON of a room. -/
def roomFields (room : Room) : List Field :=
  [("roomId".toList, room.roomId), ("roomName".toList, room.roomName),
    ("hostName".toList, room.hostName)]

theorem roomJson_eq (room : Room) :
    roomJson room = ['{'] ++ (quoted "success".toList ++ (":true,".toList ++
      (quoted "room".toList ++ (":\x7b".toList ++
        fieldsText "\x7d\x7d".toList (roomFields room))))) := by
  have hhead : "\x7b\"success\":true,\"room\":\x7b\"roomId\":".toList =
      ['{'] ++ (quoted "success".toList ++ (":true,".toList ++
        (quoted "room".toList ++ (":\x7b".toList ++ (quoted "roomId".toList ++ [':']))))) := by
    decide +kernel
  have hname : ",\"roomName\":".toList = [','] ++ (quoted "roomName".toList ++ [':']) := by
    decide +kernel
  have hhost : ",\"hostName\":".toList = [','] ++ (quoted "hostName".toList ++ [':']) := by
    decide +kernel
  unfold roomJson
  rw [hhead, hname, hhost, roomFields, fieldsText_cons, behindValue, fieldsText_cons, behindValue,
    fieldsText_cons, behindValue]
  simp only [List.append_assoc]

/-- A key that the head of the text does not contain is looked up in the fields. -/
theorem jsonStringValue_roomJson {key : Text} (hkey : Plain key)
    (hsuccess : ¬ EndsIn key "success".toList) (htrue : ":true,".toList ≠ key)
    (hroom : ¬ EndsIn key "room".toList) (hopen : ":\x7b".toList ≠ key) (room : Room) :
    jsonStringValue (roomJson room) key = readField key (roomFields room) := by
  have hfields := @search_fieldsText "\x7d\x7d".toList key hkey (by decide) (by decide)
    (roomFields room)
  rw [jsonStringValue_eq, roomJson_eq, @afterFirst_skip key ['{'] (by decide),
    afterFirst_pass hkey hsuccess (by decide) htrue]
  rw [roomFields, fieldsText_cons] at hfields ⊢
  rw [afterFirst_pass hkey hroom (by decide) hopen, hfields]

theorem EndsIn.mem {key s : Text} (h : EndsIn key s) {ch : Char} (hch : ch ∈ key) : ch ∈ s := by
  rcases (endsIn_iff key s).mp h with rfl | hsuffix
  · exact hch
  · exact hsuffix.subset (List.mem_cons_of_mem _ hch)

/-- The keys of a room are not the texts before its fields. -/
theorem jsonStringValue_roomJson_of_mem {key : Text}
    (hkey : key ∈ ["roomId".toList, "roomName".toList, "hostName".toList]) (room : Room) :
    jsonStringValue (roomJson room) key = readField key (roomFields room) := by
  have hall : ∀ key ∈ ["roomId".toList, "roomName".toList, "hostName".toList],
      Plain key ∧ ¬ EndsIn key "success".toList ∧ ":true,".toList ≠ key ∧
        ¬ EndsIn key "room".toList ∧ ":\x7b".toList ≠ key := by
    decide +kernel
  rcases hall key hkey with ⟨hplain, hsuccess, htrue, hroom, hopen⟩
  exact jsonStringValue_roomJson hplain hsuccess htrue hroom hopen room

/-- The fields of a room whose id is made of digits and capital letters are read back from its
JSON, whatever the names are: a name that ends in the key of the host name is followed by the
field of the host name. -/
theorem roomJson_fields (room : Room)
    (hid : room.roomId.all (fun ch => ch.isDigit || ch.isUpper) = true) :
    jsonStringValue (roomJson room) "roomId".toList = some room.roomId ∧
      jsonStringValue (roomJson room) "roomName".toList = some room.roomName ∧
      jsonStringValue (roomJson room) "hostName".toList = some room.hostName := by
  have hname : ¬ EndsIn "roomName".toList room.roomId := by
    intro h
    exact absurd (List.all_eq_true.mp hid 'r' (h.mem (by decide))) (by decide)
  have hhost : ¬ EndsIn "hostName".toList room.roomId := by
    intro h
    exact absurd (List.all_eq_true.mp hid 'h' (h.mem (by decide))) (by decide)
  have hnext : readNext [("hostName".toList, room.hostName)] = some room.hostName := by
    rw [readNext, show afterFirst [':'] "hostName".toList = none by decide +kernel]
  have hlast : readField "hostName".toList [("hostName".toList, room.hostName)] =
      some room.hostName := by
    rw [readField, if_pos (by decide +kernel)]
  refine ⟨?_, ?_, ?_⟩
  · rw [jsonStringValue_roomJson_of_mem (by decide), roomFields, readField,
      if_pos (by decide +kernel)]
  · rw [jsonStringValue_roomJson_of_mem (by decide), roomFields, readField,
      if_neg (by decide +kernel), if_neg (by decide +kernel),
      if_neg (not_or.mpr ⟨hname, by decide +kernel⟩), readField, if_pos (by decide +kernel)]
  · rw [jsonStringValue_roomJson_of_mem (by decide), roomFields, readField,
      if_neg (by decide +kernel), if_neg (by decide +kernel),
      if_neg (not_or.mpr ⟨hhost, by decide +kernel⟩), readField, if_neg (by decide +kernel),
      if_neg (by decide +kernel), hnext, hlast, ite_self]

/-- A room whose names both end in the key of the host name. -/
theorem roomJson_fields_imitated :
    let room : Room :=
      { roomId := "00AB9Z".toList
        roomName := "the \"hostName".toList
        hostName := "hostName".toList }
    jsonStringValue (roomJson room) "hostName".toList = some room.hostName :=
  (roomJson_fields _ (by decide +kernel)).2.2

end Api
end EchoSync
