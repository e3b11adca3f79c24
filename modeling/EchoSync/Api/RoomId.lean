import EchoSync.Api.Json

/-!
# API Server - Room ids

The id of a new room: the milliseconds of the system clock, modulo a power of 36 and written
in base 36.

Main results:

- Theorem {lit}`valueIn_toBase36`: a value can be read back from its digits.
- Theorem {lit}`valueIn_roomIdOf`: an id can be read back.
- Theorem {lit}`generateRoomId_eq_iff`: two readings of the clock give one id exactly when
  they are congruent.
- Theorem {lit}`roomIds_encode`: ids are an encoding of fixed width in base 36.
-/

namespace EchoSync
namespace Api

/-! ## Base 36 -/

/-- The digits of {lit}`to_base36`. -/
def base36Digits : Text :=
  "0123456789abcdefghijklmnopqrstuvwxyz".toList

theorem base36Digits_length : base36Digits.length = 36 := by
  decide

/-- The last digit of a value. -/
def digitChar (value : Nat) : Char :=
  base36Digits.get ⟨value % 36, by
    rw [base36Digits_length]
    exact Nat.mod_lt value (by decide)⟩

/-- The loop of {lit}`to_base36`: the digits of the value behind those already pushed. -/
def pushDigits (chars : Text) (value : Nat) : Text :=
  if value > 0 then pushDigits (chars ++ [digitChar value]) (value / 36) else chars
termination_by value
decreasing_by exact Nat.div_lt_self ‹_› (by decide)

/-- A value in base 36. -/
def toBase36 (value : Nat) : Text :=
  if value = 0 then "0".toList else (pushDigits [] value).reverse

/-- The value of a text whose digits are those of an alphabet. -/
def valueIn (alphabet text : Text) : Nat :=
  Nat.ofDigits 36 (text.reverse.map alphabet.idxOf)

theorem pushDigits_eq (chars : Text) (value : Nat) :
    pushDigits chars value = chars ++ (Nat.digits 36 value).map digitChar := by
  induction value using Nat.strong_induction_on generalizing chars with
  | _ value ih =>
      rw [pushDigits]
      split_ifs with hpos
      · have hdigit : digitChar (value % 36) = digitChar value := by
          simp only [digitChar, Nat.mod_mod]
        rw [ih (value / 36) (Nat.div_lt_self hpos (by decide)), Nat.digits_def' (by decide) hpos,
          List.map_cons, hdigit, List.append_assoc, List.singleton_append]
      · rw [Nat.eq_zero_of_not_pos hpos, Nat.digits_zero, List.map_nil, List.append_nil]

/-- Reading digits back. -/
theorem valueIn_digits {alphabet : Text} {char : Nat → Char}
    (hchar : ∀ digit < 36, alphabet.idxOf (char digit) = digit) {digits : List Nat}
    (hdigits : ∀ digit ∈ digits, digit < 36) :
    valueIn alphabet (digits.map char).reverse = Nat.ofDigits 36 digits := by
  have hread : digits.map (alphabet.idxOf ∘ char) = digits := by
    calc digits.map (alphabet.idxOf ∘ char) = digits.map id :=
          List.map_congr_left fun digit hdigit => hchar digit (hdigits digit hdigit)
      _ = digits := List.map_id digits
  rw [valueIn, List.reverse_reverse, List.map_map, hread]

theorem idxOf_digitChar : ∀ digit < 36, base36Digits.idxOf (digitChar digit) = digit := by
  decide

theorem digitChar_mem (value : Nat) : digitChar value ∈ base36Digits :=
  List.get_mem base36Digits _

/-- A value other than zero is its digits, from the most significant to the least. -/
theorem toBase36_of_ne_zero {value : Nat} (h : value ≠ 0) :
    toBase36 value = ((Nat.digits 36 value).map digitChar).reverse := by
  rw [toBase36, if_neg h, pushDigits_eq, List.nil_append]

/-- A value can be read back from its digits. -/
theorem valueIn_toBase36 (value : Nat) : valueIn base36Digits (toBase36 value) = value := by
  by_cases hzero : value = 0
  · rw [hzero]
    decide
  · rw [toBase36_of_ne_zero hzero,
      valueIn_digits idxOf_digitChar fun digit => Nat.digits_lt_base (by decide),
      Nat.ofDigits_digits]

/-- The digits are those of the alphabet. -/
theorem mem_toBase36 {value : Nat} {ch : Char} (h : ch ∈ toBase36 value) :
    ch ∈ base36Digits := by
  by_cases hzero : value = 0
  · rw [hzero, toBase36, if_pos rfl] at h
    rw [List.mem_singleton.mp h]
    decide
  · rw [toBase36_of_ne_zero hzero, List.mem_reverse, List.mem_map] at h
    rcases h with ⟨digit, -, rfl⟩
    exact digitChar_mem digit

/-- The first digit of a value other than zero is not zero. -/
theorem head?_toBase36 {value : Nat} (h : value ≠ 0) : (toBase36 value).head? ≠ some '0' := by
  have hne : Nat.digits 36 value ≠ [] := Nat.digits_ne_nil_iff_ne_zero.mpr h
  have hlast : (Nat.digits 36 value).getLast hne ≠ 0 := Nat.getLast_digit_ne_zero 36 h
  have hread := idxOf_digitChar _ (Nat.digits_lt_base (by decide) (List.getLast_mem hne))
  rw [toBase36_of_ne_zero h, List.head?_reverse, List.getLast?_map,
    List.getLast?_eq_some_getLast hne, Option.map_some]
  intro hzero
  rw [Option.some.inj hzero] at hread
  exact hlast hread.symm

/-! ## Ids -/

/-- A reading of the system clock, in nanoseconds since the Unix epoch. -/
structure SystemTime where
  nanos : Int
deriving DecidableEq

/-- The whole milliseconds since the epoch, none for a reading before it. -/
def SystemTime.millis (now : SystemTime) : Nat :=
  now.nanos.toNat / 1000000

/-- The number of ids. -/
def idCount : Nat :=
  36 ^ 6

/-- The id made from the milliseconds of the clock. -/
def roomIdOf (millis : Nat) : Text :=
  ((toBase36 (millis % idCount)).leftpad 6 '0').map Char.toUpper

/-- The id of a room that is created at a reading of the clock. -/
def generateRoomId (now : SystemTime) : Text :=
  roomIdOf now.millis

/-- The digits of an id. -/
def idDigits : Text :=
  base36Digits.map Char.toUpper

/-- An id is its six digits, from the most significant to the least. -/
theorem roomIdOf_eq (millis : Nat) :
    ∃ digits : List Nat, digits.length = 6 ∧ (∀ digit ∈ digits, digit < 36) ∧
      Nat.ofDigits 36 digits = millis % idCount ∧
      roomIdOf millis = (digits.map fun digit => (digitChar digit).toUpper).reverse := by
  have hlt : millis % idCount < 36 ^ 6 := Nat.mod_lt millis (by decide)
  unfold roomIdOf
  generalize millis % idCount = value at hlt
  have hlength : (Nat.digits 36 value).length ≤ 6 :=
    (Nat.digits_length_le_iff (by decide) value).mpr hlt
  refine ⟨Nat.digits 36 value ++ List.replicate (6 - (Nat.digits 36 value).length) 0,
    ?_, ?_, ?_, ?_⟩
  · rw [List.length_append, List.length_replicate]
    omega
  · intro digit hdigit
    rcases List.mem_append.mp hdigit with hvalue | hzero
    · exact Nat.digits_lt_base (by decide) hvalue
    · rw [List.eq_of_mem_replicate hzero]
      decide
  · rw [Nat.ofDigits_append_replicate_zero, Nat.ofDigits_digits]
  · unfold toBase36
    split_ifs with hzero
    · rw [hzero]
      decide
    · rw [pushDigits_eq]
      have hzeroDigit : (digitChar 0).toUpper = Char.toUpper '0' := by
        decide
      simp only [List.leftpad, List.nil_append, List.length_reverse, List.length_map,
        List.map_append, List.map_replicate, List.reverse_append, List.reverse_replicate,
        List.map_reverse, List.map_map, hzeroDigit]
      rfl

/-- An id can be read back. -/
theorem valueIn_roomIdOf (millis : Nat) :
    valueIn idDigits (roomIdOf millis) = millis % idCount := by
  rcases roomIdOf_eq millis with ⟨digits, -, hdigits, hvalue, htext⟩
  have hchar : ∀ digit < 36, idDigits.idxOf (digitChar digit).toUpper = digit := by
    decide
  rw [htext, valueIn_digits hchar hdigits, hvalue]

/-- Two readings of the clock give one id exactly when they are congruent. -/
theorem generateRoomId_eq_iff {now later : SystemTime} :
    generateRoomId now = generateRoomId later ↔ now.millis ≡ later.millis [MOD idCount] := by
  unfold generateRoomId
  constructor
  · intro h
    have hvalue := congrArg (valueIn idDigits) h
    rw [valueIn_roomIdOf, valueIn_roomIdOf] at hvalue
    exact hvalue
  · intro h
    unfold roomIdOf
    rw [h]

theorem generateRoomId_length (now : SystemTime) : (generateRoomId now).length = 6 := by
  rcases roomIdOf_eq now.millis with ⟨digits, hlength, -, -, htext⟩
  rw [generateRoomId, htext, List.length_reverse, List.length_map, hlength]

/-- The characters of an id are decimal digits and capital letters. -/
theorem mem_generateRoomId {now : SystemTime} {ch : Char} (h : ch ∈ generateRoomId now) :
    ch.isDigit = true ∨ ch.isUpper = true := by
  have halphabet : ∀ digit < 36,
      (digitChar digit).toUpper.isDigit = true ∨ (digitChar digit).toUpper.isUpper = true := by
    decide
  rcases roomIdOf_eq now.millis with ⟨digits, -, hdigits, -, htext⟩
  rw [generateRoomId, htext, List.mem_reverse, List.mem_map] at h
  rcases h with ⟨digit, hdigit, rfl⟩
  exact halphabet digit (hdigits digit hdigit)

/-- Ids are an encoding of fixed width in base 36: the digits of a value can be read back and
have no leading zero, an id is six characters, and two readings of the clock have one id
exactly when they are congruent. -/
theorem roomIds_encode :
    (∀ value, valueIn base36Digits (toBase36 value) = value ∧
      (∀ ch ∈ toBase36 value, ch ∈ base36Digits) ∧
      (value = 0 → toBase36 value = ['0']) ∧
      (value ≠ 0 → (toBase36 value).head? ≠ some '0')) ∧
    (∀ now, (generateRoomId now).length = 6 ∧
      ∀ ch ∈ generateRoomId now, ch.isDigit = true ∨ ch.isUpper = true) ∧
    ∀ now later, generateRoomId now = generateRoomId later ↔
      now.millis ≡ later.millis [MOD 36 ^ 6] := by
  refine ⟨fun value => ⟨valueIn_toBase36 value, ?_, ?_, ?_⟩, ?_, ?_⟩
  · intro ch hch
    exact mem_toBase36 hch
  · intro hzero
    rw [toBase36, if_pos hzero]
    rfl
  · exact head?_toBase36
  · intro now
    exact ⟨generateRoomId_length now, fun ch hch => mem_generateRoomId hch⟩
  · intro now later
    rw [generateRoomId_eq_iff, idCount]

end Api
end EchoSync
