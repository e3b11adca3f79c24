import Mathlib

/-!
# Foundations - String literals of JSON

The string literals of the JSON grammar (RFC 8259, section 7).  A literal is the list of the
items between its quotes: unescaped characters, escapes of two characters, and code units in
hexadecimal, of which two surrogates make one item.  Each item denotes one character.

Main results:

- Theorem {lit}`mem_text`: no control character is in the text of a literal.
- Theorem {lit}`flatMap_eq_map_iff`: a reader that makes at least one character of each item
  reads what a literal denotes exactly when it reads every item right.
-/

namespace EchoSync
namespace JsonString

/-! ## Items -/

/-- The characters that stand for themselves. -/
def Unescaped (ch : Char) : Prop :=
  0x20 ≤ ch.toNat ∧ ch ≠ '"' ∧ ch ≠ '\\'

instance (ch : Char) : Decidable (Unescaped ch) :=
  inferInstanceAs (Decidable (_ ∧ _))

/-- The escapes of two characters. -/
inductive Escape where
  | quotationMark
  | reverseSolidus
  | solidus
  | backspace
  | formFeed
  | lineFeed
  | carriageReturn
  | tab
deriving DecidableEq

namespace Escape

/-- The character behind the backslash. -/
def letter : Escape → Char
  | quotationMark => '"'
  | reverseSolidus => '\\'
  | solidus => '/'
  | backspace => 'b'
  | formFeed => 'f'
  | lineFeed => 'n'
  | carriageReturn => 'r'
  | tab => 't'

/-- The character that the escape denotes. -/
def char : Escape → Char
  | quotationMark => '"'
  | reverseSolidus => '\\'
  | solidus => '/'
  | backspace => Char.ofNat 0x08
  | formFeed => Char.ofNat 0x0c
  | lineFeed => '\n'
  | carriageReturn => '\r'
  | tab => '\t'

theorem letter_toNat (e : Escape) : 0x20 ≤ e.letter.toNat := by
  cases e <;> decide

end Escape

/-- The hexadecimal digits, of either case. -/
def isHexDigit (ch : Char) : Bool :=
  ch.isDigit || (decide ('a' ≤ ch) && decide (ch ≤ 'f')) ||
    (decide ('A' ≤ ch) && decide (ch ≤ 'F'))

/-- A hexadecimal digit. -/
abbrev HexDigit := {ch : Char // isHexDigit ch = true}

/-- The value of a digit. -/
def HexDigit.value (digit : HexDigit) : Nat :=
  if digit.val.isDigit then digit.val.toNat - '0'.toNat
  else if 'a' ≤ digit.val then digit.val.toNat - 'a'.toNat + 10
  else digit.val.toNat - 'A'.toNat + 10

/-- The four digits of a code unit. -/
structure HexQuad where
  first : HexDigit
  second : HexDigit
  third : HexDigit
  fourth : HexDigit

namespace HexQuad

def text (code : HexQuad) : List Char :=
  [code.first, code.second, code.third, code.fourth]

/-- The code unit. -/
def value (code : HexQuad) : Nat :=
  ((code.first.value * 16 + code.second.value) * 16 + code.third.value) * 16 + code.fourth.value

def IsHighSurrogate (code : HexQuad) : Prop :=
  0xd800 ≤ code.value ∧ code.value ≤ 0xdbff

def IsLowSurrogate (code : HexQuad) : Prop :=
  0xdc00 ≤ code.value ∧ code.value ≤ 0xdfff

/-- The code point of two surrogates. -/
def pairValue (high low : HexQuad) : Nat :=
  0x10000 + (high.value - 0xd800) * 0x400 + (low.value - 0xdc00)

theorem pairValue_isValidChar {high low : HexQuad} (hhigh : high.IsHighSurrogate)
    (hlow : low.IsLowSurrogate) : (pairValue high low).isValidChar := by
  unfold IsHighSurrogate at hhigh
  unfold IsLowSurrogate at hlow
  right
  unfold pairValue
  omega

theorem isHexDigit_of_mem_text {code : HexQuad} {ch : Char} (h : ch ∈ code.text) :
    isHexDigit ch = true := by
  simp only [text, List.mem_cons, List.not_mem_nil, or_false] at h
  rcases h with rfl | rfl | rfl | rfl
  · exact code.first.property
  · exact code.second.property
  · exact code.third.property
  · exact code.fourth.property

end HexQuad

/-- One item between the quotes. -/
inductive Item where
  | unescaped (ch : Char) (h : Unescaped ch)
  | escape (e : Escape)
  | unicode (code : HexQuad) (h : code.value.isValidChar)
  | surrogatePair (high low : HexQuad) (hhigh : high.IsHighSurrogate) (hlow : low.IsLowSurrogate)

namespace Item

/-- The text of an item. -/
def text : Item → List Char
  | unescaped ch _ => [ch]
  | escape e => ['\\', e.letter]
  | unicode code _ => '\\' :: 'u' :: code.text
  | surrogatePair high low _ _ => '\\' :: 'u' :: (high.text ++ '\\' :: 'u' :: low.text)

/-- The character that an item denotes. -/
def char : Item → Char
  | unescaped ch _ => ch
  | escape e => e.char
  | unicode code h => Char.ofNatAux code.value h
  | surrogatePair high low hhigh hlow =>
      Char.ofNatAux (HexQuad.pairValue high low) (HexQuad.pairValue_isValidChar hhigh hlow)

end Item

/-! ## Literals -/

/-- A string literal: the items between its quotes. -/
abbrev Literal := List Item

/-- The text of a literal, with its quotes. -/
def Literal.text (literal : Literal) : List Char :=
  '"' :: (literal.flatMap Item.text ++ ['"'])

/-- The string that a literal denotes. -/
def Literal.chars (literal : Literal) : List Char :=
  literal.map Item.char

theorem isHexDigit_toNat {ch : Char} (h : isHexDigit ch = true) : 0x30 ≤ ch.toNat := by
  simp only [isHexDigit, Char.isDigit, Bool.or_eq_true, Bool.and_eq_true, decide_eq_true_eq,
    Char.le_def, UInt32.le_iff_toNat_le] at h
  simp only [Char.toNat]
  rcases h with (h | h) | h
  · exact h.1
  · exact le_trans (by decide) h.1
  · exact le_trans (by decide) h.1

/-- No control character is in the text of an item. -/
theorem Item.mem_text {item : Item} {ch : Char} (h : ch ∈ item.text) : 0x20 ≤ ch.toNat := by
  have hdigit : ∀ code : HexQuad, ch ∈ code.text → 0x20 ≤ ch.toNat := by
    intro code hmem
    exact le_trans (by decide) (isHexDigit_toNat (HexQuad.isHexDigit_of_mem_text hmem))
  cases item with
  | unescaped other hother =>
      rw [List.mem_singleton.mp h]
      exact hother.1
  | escape e =>
      simp only [text, List.mem_cons, List.not_mem_nil, or_false] at h
      rcases h with rfl | rfl
      · decide
      · exact e.letter_toNat
  | unicode code hcode =>
      simp only [text, List.mem_cons] at h
      rcases h with rfl | rfl | hmem
      · decide
      · decide
      · exact hdigit code hmem
  | surrogatePair high low hhigh hlow =>
      simp only [text, List.mem_cons, List.mem_append] at h
      rcases h with rfl | rfl | hmem | rfl | rfl | hmem
      · decide
      · decide
      · exact hdigit high hmem
      · decide
      · decide
      · exact hdigit low hmem

/-- No control character is in the text of a literal. -/
theorem Literal.mem_text {literal : Literal} {ch : Char} (h : ch ∈ literal.text) :
    0x20 ≤ ch.toNat := by
  simp only [text, List.mem_cons, List.mem_append, List.not_mem_nil, or_false] at h
  rcases h with rfl | hmem | rfl
  · decide
  · rcases List.mem_flatMap.mp hmem with ⟨item, -, hitem⟩
    exact item.mem_text hitem
  · decide

/-! ## Reading item by item -/

section Reading

variable {α β : Type*} {read : α → List β} {denote : α → β}

/-- What is made of at least one character for each item is at least as long. -/
theorem length_le_flatMap (hread : ∀ x, read x ≠ []) (xs : List α) :
    xs.length ≤ (xs.flatMap read).length := by
  induction xs with
  | nil => exact Nat.zero_le _
  | cons x xs ih =>
      have hpos : 0 < (read x).length := List.length_pos_iff.mpr (hread x)
      rw [List.flatMap_cons, List.length_append, List.length_cons]
      omega

/-- Items are read right as a whole exactly when each of them is. -/
theorem flatMap_eq_map_iff (hread : ∀ x, read x ≠ []) (xs : List α) :
    xs.flatMap read = xs.map denote ↔ ∀ x ∈ xs, read x = [denote x] := by
  induction xs with
  | nil => simp
  | cons x xs ih =>
      rw [List.flatMap_cons, List.map_cons, List.forall_mem_cons, ← ih]
      constructor
      · intro h
        have hlength := congrArg List.length h
        have hle := length_le_flatMap hread xs
        have hpos : 0 < (read x).length := List.length_pos_iff.mpr (hread x)
        rw [List.length_append, List.length_cons, List.length_map] at hlength
        exact List.append_inj h (by rw [List.length_singleton]; omega)
      · rintro ⟨hx, hxs⟩
        rw [hx, hxs, List.singleton_append]

end Reading

end JsonString
end EchoSync
