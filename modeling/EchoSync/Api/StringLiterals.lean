import EchoSync.Api.KeySearch
import EchoSync.Foundations.JsonString

/-!
# API Server - String literals

The reader and the writer of strings against the grammar of JSON.  The reader takes the
character behind a backslash as it is unless it is an n, r or t, so the escapes of a backspace,
of a form feed and of code units in hexadecimal are read as letters and digits.  The writer
escapes quotes, backslashes, line ends and tabs and leaves every other control character as it
is, which the grammar does not allow.

Main results:

- Theorem {lit}`jsonStringValue_literal`: what is read of a literal, item by item.
- Theorem {lit}`stringLiterals_iff`: which literals are read as what they denote, and which
  strings are written as literals that denote them.
-/

namespace EchoSync
namespace Api

open JsonString

/-! ## Reading a literal -/

/-- The body of a request with one field, the name of a room. -/
def roomNameBody (literal : Text) : Text :=
  ['{', '"'] ++ "roomName".toList ++ ['"', ':'] ++ literal ++ ['}']

/-- What the reader makes of an item. -/
def readItem : Item → Text
  | .unescaped ch _ => [ch]
  | .escape e => [unescapeChar e.letter]
  | .unicode code _ => 'u' :: code.text
  | .surrogatePair high low _ _ => 'u' :: (high.text ++ 'u' :: low.text)

theorem readItem_ne_nil (item : Item) : readItem item ≠ [] := by
  cases item <;> exact List.cons_ne_nil _ _

/-- Digits are read as they are. -/
theorem scanValue_hexQuad (value : Text) (code : HexQuad) (rest : Text) :
    scanValue value (code.text ++ rest) = scanValue (value ++ code.text) rest := by
  have hplain : ∀ digit : HexDigit, digit.val ≠ '"' ∧ digit.val ≠ '\\' := by
    intro digit
    constructor
    · intro hquote
      exact absurd (hquote ▸ digit.property) (by decide)
    · intro hbackslash
      exact absurd (hbackslash ▸ digit.property) (by decide)
  simp only [HexQuad.text, List.cons_append, List.nil_append]
  rw [scanValue_other value (hplain code.first).1 (hplain code.first).2,
    scanValue_other _ (hplain code.second).1 (hplain code.second).2,
    scanValue_other _ (hplain code.third).1 (hplain code.third).2,
    scanValue_other _ (hplain code.fourth).1 (hplain code.fourth).2]
  simp only [List.append_assoc, List.cons_append, List.nil_append]

/-- The loop reads one item. -/
theorem scanValue_item (value : Text) (item : Item) (rest : Text) :
    scanValue value (item.text ++ rest) = scanValue (value ++ readItem item) rest := by
  have hu : unescapeChar 'u' = 'u' := by
    decide
  cases item with
  | unescaped ch h => exact scanValue_other value h.2.1 h.2.2 rest
  | escape e => exact scanValue_backslash value e.letter rest
  | unicode code h =>
      simp only [Item.text, readItem, List.cons_append]
      rw [scanValue_backslash, hu, scanValue_hexQuad, List.append_assoc, List.singleton_append]
  | surrogatePair high low hhigh hlow =>
      simp only [Item.text, readItem, List.cons_append, List.append_assoc]
      rw [scanValue_backslash, scanValue_hexQuad, scanValue_backslash, scanValue_hexQuad, hu]
      simp only [List.append_assoc, List.cons_append, List.nil_append]

/-- The loop reads the items up to the closing quote. -/
theorem scanValue_items (value : Text) (literal : Literal) (rest : Text) :
    scanValue value (literal.flatMap Item.text ++ '"' :: rest) =
      some (value ++ literal.flatMap readItem) := by
  induction literal generalizing value with
  | nil => rw [List.flatMap_nil, List.nil_append, scanValue_quote, List.flatMap_nil,
      List.append_nil]
  | cons item literal ih =>
      rw [List.flatMap_cons, List.append_assoc, scanValue_item, ih, List.flatMap_cons,
        List.append_assoc]

/-- What is read of a literal, item by item. -/
theorem jsonStringValue_literal (literal : Literal) :
    jsonStringValue (roomNameBody literal.text) "roomName".toList =
      some (literal.flatMap readItem) := by
  have hbody : roomNameBody literal.text =
      ['{'] ++ (keyPattern "roomName".toList ++
        ([':'] ++ '"' :: (literal.flatMap Item.text ++ '"' :: ['}']))) := by
    simp only [roomNameBody, Literal.text, keyPattern, List.append_assoc, List.cons_append,
      List.nil_append]
  have htrim : ∀ rest, trimStart ('"' :: rest) = '"' :: rest := by
    intro rest
    exact List.dropWhile_cons_of_neg (by decide)
  have hkey : keyPattern "roomName".toList ≠ [] := List.cons_ne_nil _ _
  rw [jsonStringValue_eq, hbody, afterFirst_skip (by decide), afterFirst_append_left hkey,
    Option.bind_some, readBehind, afterFirst_append_left (List.cons_ne_nil _ _),
    Option.bind_some, htrim, readQuoted, scanValue_items, List.nil_append]

/-- The items that the reader knows: all but the escapes of a backspace, of a form feed and of
code units. -/
def Known : Item → Prop
  | .unescaped _ _ => True
  | .escape e => e ≠ .backspace ∧ e ≠ .formFeed
  | .unicode _ _ | .surrogatePair _ _ _ _ => False

/-- The items that the reader knows are those that it reads right. -/
theorem readItem_eq_iff (item : Item) : readItem item = [item.char] ↔ Known item := by
  cases item with
  | unescaped ch h => simp [readItem, Item.char, Known]
  | escape e =>
      have hescape : unescapeChar e.letter = e.char ↔ e ≠ .backspace ∧ e ≠ .formFeed := by
        cases e <;> decide
      rw [readItem, Item.char, Known, List.cons.injEq, hescape, eq_self, and_true]
  | unicode code h => simp [readItem, HexQuad.text, Known]
  | surrogatePair high low hhigh hlow => simp [readItem, HexQuad.text, Known]

/-! ## Writing a literal -/

/-- The characters that the writer can write: all but the control characters that it has no
escape for. -/
def Writable (ch : Char) : Prop :=
  0x20 ≤ ch.toNat ∨ ch = '\n' ∨ ch = '\r' ∨ ch = '\t'

/-- One such character is written as an item that denotes it. -/
theorem exists_item {ch : Char} (h : Writable ch) :
    ∃ item : Item, item.text = escapeChar ch ∧ item.char = ch := by
  unfold escapeChar
  split_ifs with hquote hbackslash hnewline hreturn htab
  · exact ⟨.escape .quotationMark, rfl, hquote.symm⟩
  · exact ⟨.escape .reverseSolidus, rfl, hbackslash.symm⟩
  · exact ⟨.escape .lineFeed, rfl, hnewline.symm⟩
  · exact ⟨.escape .carriageReturn, rfl, hreturn.symm⟩
  · exact ⟨.escape .tab, rfl, htab.symm⟩
  · rcases h with hle | h | h | h
    · exact ⟨.unescaped ch ⟨hle, hquote, hbackslash⟩, rfl, rfl⟩
    · exact absurd h hnewline
    · exact absurd h hreturn
    · exact absurd h htab

/-- A string of such characters is written as a literal that denotes it. -/
theorem exists_literal {s : Text} (h : ∀ ch ∈ s, Writable ch) :
    ∃ literal : Literal, literal.text = quoted s ∧ literal.chars = s := by
  have hitems : ∃ literal : Literal,
      literal.flatMap Item.text = jsonEscape s ∧ literal.chars = s := by
    induction s with
    | nil => exact ⟨[], rfl, rfl⟩
    | cons ch s ih =>
        rw [List.forall_mem_cons] at h
        rcases exists_item h.1 with ⟨item, htext, hchar⟩
        rcases ih h.2 with ⟨literal, htexts, hchars⟩
        refine ⟨item :: literal, ?_, ?_⟩
        · rw [List.flatMap_cons, htext, htexts, jsonEscape_cons]
        · rw [Literal.chars, List.map_cons, hchar, ← Literal.chars, hchars]
  rcases hitems with ⟨literal, htexts, hchars⟩
  exact ⟨literal, by rw [Literal.text, htexts, quoted], hchars⟩

/-- Other control characters are written as they are, which is in no literal. -/
theorem writable_of_literal {s : Text} {literal : Literal} (h : literal.text = quoted s)
    {ch : Char} (hmem : ch ∈ s) : Writable ch := by
  by_contra hnot
  simp only [Writable, not_or, not_le] at hnot
  rcases hnot with ⟨hlt, hnewline, hreturn, htab⟩
  have hquote : ch ≠ '"' := by
    rintro rfl
    exact absurd hlt (by decide)
  have hbackslash : ch ≠ '\\' := by
    rintro rfl
    exact absurd hlt (by decide)
  have hwritten : escapeChar ch = [ch] := by
    rw [escapeChar, if_neg hquote, if_neg hbackslash, if_neg hnewline, if_neg hreturn,
      if_neg htab]
  have htext : ch ∈ literal.text := by
    rw [h, quoted, jsonEscape]
    refine List.mem_cons_of_mem _ (List.mem_append_left _ (List.mem_flatMap.mpr ⟨ch, hmem, ?_⟩))
    rw [hwritten]
    exact List.mem_singleton_self ch
  exact absurd (Literal.mem_text htext) (not_le.mpr hlt)

/-! ## Reader and writer -/

/-- A literal is read as what it denotes exactly when it has no escape of a backspace, of a form
feed or of a code unit; a string is written as a literal that denotes it exactly when its only
control characters are line feeds, carriage returns and tabs. -/
theorem stringLiterals_iff (literal : Literal) (s : Text) :
    (jsonStringValue (roomNameBody literal.text) "roomName".toList = some literal.chars ↔
      ∀ item ∈ literal, Known item) ∧
    ((∃ written : Literal, written.text = quoted s ∧ written.chars = s) ↔
      ∀ ch ∈ s, Writable ch) := by
  constructor
  · rw [jsonStringValue_literal, Option.some.injEq, Literal.chars,
      flatMap_eq_map_iff readItem_ne_nil]
    exact forall₂_congr fun item _ => readItem_eq_iff item
  · constructor
    · rintro ⟨written, htext, -⟩ ch hch
      exact writable_of_literal htext hch
    · exact exists_literal

/-- A backspace is read as the letter behind its backslash, and the first control character is
written in no literal. -/
theorem stringLiterals_fail :
    (∃ literal : Literal, literal.text = "\"\\b\"".toList ∧
      literal.chars = [Char.ofNat 0x08] ∧
      jsonStringValue (roomNameBody literal.text) "roomName".toList = some ['b']) ∧
    ¬ ∃ literal : Literal, literal.text = quoted [Char.ofNat 0x01] ∧
      literal.chars = [Char.ofNat 0x01] := by
  constructor
  · exact ⟨[.escape .backspace], by decide, by decide, jsonStringValue_literal _⟩
  · rintro ⟨literal, htext, -⟩
    have hwritable := writable_of_literal htext (List.mem_singleton_self _)
    exact absurd hwritable (by unfold Writable; decide)

end Api
end EchoSync
