import Mathlib

/-!
# API Server - Rooms and their JSON

The texts that the server reads and writes: the extraction of one string value from the body
of a request, and the JSON text of a room.  A text is the list of its Unicode scalar values.

Main results:

- Theorem {lit}`scanValue_jsonEscape`: the reader recovers an escaped value.
- Theorem {lit}`roomJson_inj`: rooms with one id and one JSON text have the same names.
-/

namespace EchoSync
namespace Api

/-- A string of the source. -/
abbrev Text := List Char

/-! ## Reading one value -/

/-- The characters with the Unicode property {lit}`White_Space`. -/
def isWhiteSpace (ch : Char) : Bool :=
  (decide (0x09 ≤ ch.toNat) && decide (ch.toNat ≤ 0x0d)) ||
    (decide (0x2000 ≤ ch.toNat) && decide (ch.toNat ≤ 0x200a)) ||
    [0x20, 0x85, 0xa0, 0x1680, 0x2028, 0x2029, 0x202f, 0x205f, 0x3000].contains ch.toNat

/-- The text without its leading white space. -/
def trimStart (text : Text) : Text :=
  text.dropWhile isWhiteSpace

/-- What follows the first occurrence of a pattern. -/
def afterFirst (pattern : Text) : Text → Option Text
  | [] => if pattern = [] then some [] else none
  | ch :: text =>
      if pattern <+: ch :: text then some ((ch :: text).drop pattern.length)
      else afterFirst pattern text

/-- The character that an escape sequence stands for. -/
def unescapeChar (escaped : Char) : Char :=
  if escaped = 'n' then '\n'
  else if escaped = 'r' then '\r'
  else if escaped = 't' then '\t'
  else escaped

/-- The loop over the characters after the opening quote: the value, up to the closing
quote. -/
def scanValue (value : Text) : Text → Option Text
  | [] => none
  | ch :: chars =>
      if ch = '"' then some value
      else if ch = '\\' then
        match chars with
        | [] => none
        | escaped :: chars => scanValue (value ++ [unescapeChar escaped]) chars
      else scanValue (value ++ [ch]) chars

/-- The string value under a key of a JSON text: what follows the first occurrence of the
quoted key, the next colon and white space, if that is a string. -/
def jsonStringValue (body key : Text) : Option Text := do
  let afterKey ← afterFirst ('"' :: key ++ ['"']) body
  let afterColon := trimStart (← afterFirst [':'] afterKey)
  match afterColon with
  | '"' :: chars => scanValue [] chars
  | _ => none

/-! ## Writing a room -/

/-- One character inside a JSON string. -/
def escapeChar (ch : Char) : Text :=
  if ch = '"' then ['\\', '"']
  else if ch = '\\' then ['\\', '\\']
  else if ch = '\n' then ['\\', 'n']
  else if ch = '\r' then ['\\', 'r']
  else if ch = '\t' then ['\\', 't']
  else [ch]

/-- The characters of a value inside a JSON string. -/
def jsonEscape (value : Text) : Text :=
  value.flatMap escapeChar

/-- A value as a JSON string. -/
def quoted (value : Text) : Text :=
  '"' :: (jsonEscape value ++ ['"'])

/-- A room of the server. -/
@[ext]
structure Room where
  roomId : Text
  roomName : Text
  hostName : Text
deriving DecidableEq

/-- The body of the responses that describe a room. -/
def roomJson (room : Room) : Text :=
  "\x7b\"success\":true,\"room\":\x7b\"roomId\":".toList ++ quoted room.roomId ++
    ",\"roomName\":".toList ++ quoted room.roomName ++
    ",\"hostName\":".toList ++ quoted room.hostName ++ "\x7d\x7d".toList

/-! ## The reader recovers what was written -/

theorem scanValue_quote (value rest : Text) : scanValue value ('"' :: rest) = some value := by
  rw [scanValue.eq_def]
  rfl

theorem scanValue_backslash (value : Text) (escaped : Char) (rest : Text) :
    scanValue value ('\\' :: escaped :: rest) =
      scanValue (value ++ [unescapeChar escaped]) rest := by
  rw [scanValue.eq_def]
  rfl

theorem scanValue_other (value : Text) {ch : Char} (hquote : ch ≠ '"') (hbackslash : ch ≠ '\\')
    (rest : Text) : scanValue value (ch :: rest) = scanValue (value ++ [ch]) rest := by
  rw [scanValue.eq_def]
  simp only [hquote, hbackslash, if_false]

/-- The loop reads an escaped character as one character. -/
theorem scanValue_escapeChar (value : Text) (ch : Char) (rest : Text) :
    scanValue value (escapeChar ch ++ rest) = scanValue (value ++ [ch]) rest := by
  unfold escapeChar
  split_ifs with hquote hbackslash hnewline hreturn htab
  · rw [hquote]
    exact scanValue_backslash value '"' rest
  · rw [hbackslash]
    exact scanValue_backslash value '\\' rest
  · rw [hnewline]
    exact scanValue_backslash value 'n' rest
  · rw [hreturn]
    exact scanValue_backslash value 'r' rest
  · rw [htab]
    exact scanValue_backslash value 't' rest
  · exact scanValue_other value hquote hbackslash rest

/-- The loop reads an escaped value up to the quote behind it. -/
theorem scanValue_jsonEscape (value written rest : Text) :
    scanValue value (jsonEscape written ++ '"' :: rest) = some (value ++ written) := by
  induction written generalizing value with
  | nil => rw [jsonEscape, List.flatMap_nil, List.nil_append, scanValue_quote, List.append_nil]
  | cons ch written ih =>
      rw [jsonEscape, List.flatMap_cons, ← jsonEscape, List.append_assoc, scanValue_escapeChar, ih,
        List.append_assoc, List.singleton_append]

/-- A JSON string determines its value and what follows it. -/
theorem quoted_append_inj {a b x y : Text} (h : quoted a ++ x = quoted b ++ y) :
    a = b ∧ x = y := by
  simp only [quoted, List.cons_append, List.append_assoc, List.cons.injEq, true_and,
    List.nil_append] at h
  have hvalue := congrArg (scanValue []) h
  rw [scanValue_jsonEscape, scanValue_jsonEscape, List.nil_append, List.nil_append,
    Option.some.injEq] at hvalue
  subst hvalue
  have hrest := List.append_cancel_left h
  exact ⟨rfl, (List.cons.inj hrest).2⟩

/-- Rooms with one JSON text are the same. -/
theorem roomJson_inj {room other : Room} (h : roomJson room = roomJson other) : room = other := by
  unfold roomJson at h
  simp only [List.append_assoc] at h
  rcases quoted_append_inj (List.append_cancel_left h) with ⟨hid, hnames⟩
  rcases quoted_append_inj (List.append_cancel_left hnames) with ⟨hname, hhosts⟩
  rcases quoted_append_inj (List.append_cancel_left hhosts) with ⟨hhost, -⟩
  exact Room.ext hid hname hhost

end Api
end EchoSync
