import EchoSync.Foundations.FirstMatch

/-!
# Foundations - The lossy decoder of UTF-8

The decoder reads one byte after another and keeps the bits of the character that it is in.
A byte that cannot continue this character ends it: a replacement character stands for the
bytes read of it, and decoding starts anew at the byte.  What is left open at the end is
replaced as well.

Main results:

- Theorem {lit}`decode_append_ascii`: every ASCII byte is kept, and decoding restarts at it.
- Theorem {lit}`decode_eq_append_ascii`: every ASCII character of the text is such a byte.
- Theorem {lit}`splitFirst_fromUtf8Lossy`: the search for an ASCII pattern may be made before
  or after decoding.
-/

namespace EchoSync
namespace Utf8

open FirstMatch

/-! ## The decoder -/

/-- A character that has begun: the bits read so far, the number of bytes behind the next one,
and the bounds of the next one.  Every code point that can still come of it is a character and
no ASCII character. -/
structure Pending where
  value : Nat
  more : Nat
  low : Nat
  high : Nat
  low_ge : 0x80 ≤ low
  scalar : ∀ n, (value * 64 + (low - 0x80)) * 64 ^ more ≤ n →
    n < (value * 64 + (high - 0x80) + 1) * 64 ^ more → 0x80 ≤ n ∧ n.isValidChar

/-- What a byte begins that is not ASCII. -/
def lead (b : Nat) : Option Pending :=
  if h : 0xc2 ≤ b ∧ b ≤ 0xdf then
    some ⟨b - 0xc0, 0, 0x80, 0xbf, le_rfl, by unfold Nat.isValidChar; omega⟩
  else if b = 0xe0 then
    some ⟨0, 1, 0xa0, 0xbf, by decide, by unfold Nat.isValidChar; omega⟩
  else if h : 0xe1 ≤ b ∧ b ≤ 0xec then
    some ⟨b - 0xe0, 1, 0x80, 0xbf, le_rfl, by unfold Nat.isValidChar; omega⟩
  else if b = 0xed then
    some ⟨0xd, 1, 0x80, 0x9f, le_rfl, by unfold Nat.isValidChar; omega⟩
  else if h : 0xee ≤ b ∧ b ≤ 0xef then
    some ⟨b - 0xe0, 1, 0x80, 0xbf, le_rfl, by unfold Nat.isValidChar; omega⟩
  else if b = 0xf0 then
    some ⟨0, 2, 0x90, 0xbf, by decide, by unfold Nat.isValidChar; omega⟩
  else if h : 0xf1 ≤ b ∧ b ≤ 0xf3 then
    some ⟨b - 0xf0, 2, 0x80, 0xbf, le_rfl, by unfold Nat.isValidChar; omega⟩
  else if b = 0xf4 then
    some ⟨4, 2, 0x80, 0x8f, le_rfl, by unfold Nat.isValidChar; omega⟩
  else none

/-- The bits of a byte within the bounds are added; the last byte makes the character. -/
def Pending.accept (p : Pending) (b : Nat) (h : p.low ≤ b ∧ b ≤ p.high) : Char ⊕ Pending :=
  if hmore : p.more = 0 then
    .inl (Char.ofNatAux (p.value * 64 + (b - 0x80)) (by
      have hlow := p.low_ge
      refine (p.scalar _ ?_ ?_).2
      · rw [hmore, pow_zero]
        omega
      · rw [hmore, pow_zero]
        omega))
  else
    .inr
      { value := p.value * 64 + (b - 0x80)
        more := p.more - 1
        low := 0x80
        high := 0xbf
        low_ge := le_rfl
        scalar := by
          have hlow := p.low_ge
          have hpow : 64 ^ p.more = 64 * 64 ^ (p.more - 1) := by
            rw [← pow_succ', Nat.sub_add_cancel (Nat.pos_of_ne_zero hmore)]
          intro n hleast hmost
          refine p.scalar n (le_trans ?_ hleast) (lt_of_lt_of_le hmost ?_)
          · rw [hpow, ← mul_assoc]
            exact Nat.mul_le_mul_right _ (by omega)
          · rw [hpow, ← mul_assoc]
            exact Nat.mul_le_mul_right _ (by omega) }

/-- The replacement character. -/
def replacement : Char :=
  Char.ofNat 0xfffd

/-- The character of an ASCII byte. -/
def asciiChar (b : UInt8) : Char :=
  Char.ofNat b.toNat

/-- The decoding of a byte between characters. -/
def start (b : UInt8) : List Char × Option Pending :=
  if b.toNat < 0x80 then ([asciiChar b], none)
  else
    match lead b.toNat with
    | none => ([replacement], none)
    | some p => ([], some p)

/-- The decoding of a byte. -/
def step : Option Pending → UInt8 → List Char × Option Pending
  | none, b => start b
  | some p, b =>
      if h : p.low ≤ b.toNat ∧ b.toNat ≤ p.high then
        match p.accept b.toNat h with
        | .inl ch => ([ch], none)
        | .inr q => ([], some q)
      else (replacement :: (start b).1, (start b).2)

/-- What stands for a character that has no end. -/
def flush : Option Pending → List Char
  | none => []
  | some _ => [replacement]

/-- The text of bytes that follow. -/
def decode : Option Pending → List UInt8 → List Char
  | s, [] => flush s
  | s, b :: bytes => (step s b).1 ++ decode (step s b).2 bytes

/-- The text of a string of bytes, with replacement characters for what is not UTF-8. -/
def fromUtf8Lossy (bytes : List UInt8) : List Char :=
  decode none bytes

/-! ## ASCII bytes -/

variable {b : UInt8} {s : Option Pending} {bytes : List UInt8} {before after : List Char}
  {ch : Char}

/-- An ASCII byte ends what is open and is kept. -/
theorem step_ascii (h : b.toNat < 0x80) (s : Option Pending) :
    step s b = (flush s ++ [asciiChar b], none) := by
  cases s with
  | none => rw [step, start, if_pos h, flush, List.nil_append]
  | some p =>
      have hout : ¬ (p.low ≤ b.toNat ∧ b.toNat ≤ p.high) := by
        rintro ⟨hlow, -⟩
        exact absurd h (not_lt.mpr (le_trans p.low_ge hlow))
      rw [step, dif_neg hout, start, if_pos h, flush, List.singleton_append]

/-- Every ASCII byte is kept, and decoding restarts at it. -/
theorem decode_append_ascii (h : b.toNat < 0x80) (s : Option Pending) (xs ys : List UInt8) :
    decode s (xs ++ b :: ys) = decode s xs ++ asciiChar b :: decode none ys := by
  induction xs generalizing s with
  | nil =>
      rw [List.nil_append, decode, decode, step_ascii h, List.append_assoc,
        List.singleton_append]
  | cons x xs ih => rw [List.cons_append, decode, ih, decode, List.append_assoc]

/-! ## Other bytes -/

/-- What another byte adds to the text has no ASCII character. -/
theorem start_notAscii (h : 0x80 ≤ b.toNat) (hmem : ch ∈ (start b).1) : 0x80 ≤ ch.toNat := by
  rw [start, if_neg (not_lt.mpr h)] at hmem
  cases hlead : lead b.toNat with
  | none =>
      rw [hlead] at hmem
      rw [List.mem_singleton.mp hmem]
      decide
  | some p =>
      rw [hlead] at hmem
      exact absurd hmem List.not_mem_nil

theorem flush_notAscii (hmem : ch ∈ flush s) : 0x80 ≤ ch.toNat := by
  cases s with
  | none => exact absurd hmem List.not_mem_nil
  | some p =>
      rw [List.mem_singleton.mp hmem]
      decide

/-- A character that a continuation ends is not an ASCII character. -/
theorem accept_notAscii {p : Pending} {n : Nat} (h : p.low ≤ n ∧ n ≤ p.high)
    (hend : p.accept n h = .inl ch) : 0x80 ≤ ch.toNat := by
  unfold Pending.accept at hend
  split_ifs at hend with hmore
  have hchar := Sum.inl.inj hend
  have hlow := p.low_ge
  have hscalar := p.scalar (p.value * 64 + (n - 0x80))
    (by rw [hmore, pow_zero]; omega) (by rw [hmore, pow_zero]; omega)
  rw [← hchar]
  exact hscalar.1

theorem step_notAscii (h : 0x80 ≤ b.toNat) (hmem : ch ∈ (step s b).1) : 0x80 ≤ ch.toNat := by
  cases s with
  | none => exact start_notAscii h hmem
  | some p =>
      rw [step] at hmem
      split_ifs at hmem with hwithin
      · cases hend : p.accept b.toNat hwithin with
        | inl other =>
            rw [hend] at hmem
            rw [List.mem_singleton.mp hmem]
            exact accept_notAscii hwithin hend
        | inr q =>
            rw [hend] at hmem
            exact absurd hmem List.not_mem_nil
      · rcases List.mem_cons.mp hmem with rfl | hstart
        · decide
        · exact start_notAscii h hstart

/-- A byte that adds nothing to the text opens a character. -/
theorem step_progress (s : Option Pending) (b : UInt8) :
    (step s b).1 ≠ [] ∨ (step s b).2 ≠ none := by
  cases s with
  | none =>
      rw [step, start]
      split_ifs
      · exact Or.inl (List.cons_ne_nil _ _)
      · cases lead b.toNat with
        | none => exact Or.inl (List.cons_ne_nil _ _)
        | some p => exact Or.inr (Option.some_ne_none p)
  | some p =>
      rw [step]
      split_ifs with hwithin
      · cases p.accept b.toNat hwithin with
        | inl other => exact Or.inl (List.cons_ne_nil _ _)
        | inr q => exact Or.inr (Option.some_ne_none q)
      · exact Or.inl (List.cons_ne_nil _ _)

/-- Only the end has no text. -/
theorem eq_nil_of_decode_eq_nil (h : decode s bytes = []) : s = none ∧ bytes = [] := by
  induction bytes generalizing s with
  | nil =>
      cases s with
      | none => exact ⟨rfl, rfl⟩
      | some p => cases h
  | cons b bytes ih =>
      rw [decode, List.append_eq_nil_iff] at h
      rcases step_progress s b with hne | hne
      · exact absurd h.1 hne
      · exact absurd (ih h.2).1 hne

/-! ## ASCII characters of the text -/

/-- A character that is not in the first part of a text is in the second. -/
theorem exists_of_append_eq {first rest : List Char} (hnot : ch ∉ first)
    (h : first ++ rest = before ++ ch :: after) :
    ∃ middle, before = first ++ middle ∧ rest = middle ++ ch :: after := by
  rcases List.append_eq_append_iff.mp h with ⟨middle, hbefore, hrest⟩ | ⟨middle, hfirst, hcons⟩
  · exact ⟨middle, hbefore, hrest⟩
  · cases middle with
    | nil => exact ⟨[], by rw [hfirst, List.append_nil, List.append_nil], hcons.symm⟩
    | cons other middle =>
        have hhead := (List.cons.inj hcons).1
        rw [hfirst, hhead] at hnot
        exact absurd (List.mem_append_right _ List.mem_cons_self) hnot

/-- Every ASCII character of the text is an ASCII byte. -/
theorem decode_eq_append_ascii (hch : ch.toNat < 0x80)
    (h : decode s bytes = before ++ ch :: after) :
    ∃ xs b ys, bytes = xs ++ b :: ys ∧ b.toNat < 0x80 ∧ asciiChar b = ch ∧
      decode s xs = before ∧ decode none ys = after := by
  induction bytes generalizing s before with
  | nil =>
      have hmem : ch ∈ flush s := by
        rw [decode] at h
        rw [h]
        exact List.mem_append_right _ List.mem_cons_self
      exact absurd hch (not_lt.mpr (flush_notAscii hmem))
  | cons b bytes ih =>
      rw [decode] at h
      by_cases hb : b.toNat < 0x80
      · rw [step_ascii hb, List.append_assoc, List.singleton_append] at h
        have hnot : ch ∉ flush s := fun hmem => absurd hch (not_lt.mpr (flush_notAscii hmem))
        rcases exists_of_append_eq hnot h with ⟨middle, rfl, hrest⟩
        cases middle with
        | nil =>
            rcases List.cons.inj hrest with ⟨hchar, hafter⟩
            exact ⟨[], b, bytes, rfl, hb, hchar, by rw [decode, List.append_nil], hafter⟩
        | cons other middle =>
            rcases List.cons.inj hrest with ⟨rfl, hmiddle⟩
            rcases ih hmiddle with ⟨xs, c, ys, rfl, hc, hchar, hbefore, hafter⟩
            refine ⟨b :: xs, c, ys, rfl, hc, hchar, ?_, hafter⟩
            rw [decode, step_ascii hb, hbefore, List.append_assoc, List.singleton_append]
      · have hnot : ch ∉ (step s b).1 :=
          fun hmem => absurd hch (not_lt.mpr (step_notAscii (not_lt.mp hb) hmem))
        rcases exists_of_append_eq hnot h with ⟨middle, rfl, hrest⟩
        rcases ih hrest with ⟨xs, c, ys, rfl, hc, hchar, hbefore, hafter⟩
        exact ⟨b :: xs, c, ys, rfl, hc, hchar, by rw [decode, hbefore], hafter⟩

/-! ## ASCII patterns -/

theorem asciiChar_toNat (h : b.toNat < 0x80) : (asciiChar b).toNat = b.toNat := by
  have hvalid : b.toNat.isValidChar := Or.inl (by omega)
  rw [asciiChar, Char.ofNat, dif_pos hvalid]
  rfl

theorem asciiChar_inj {c : UInt8} (hb : b.toNat < 0x80) (hc : c.toNat < 0x80)
    (h : asciiChar b = asciiChar c) : b = c := by
  have hnat := congrArg Char.toNat h
  rw [asciiChar_toNat hb, asciiChar_toNat hc] at hnat
  exact UInt8.toNat_inj.mp hnat

section Pattern

variable {pattern : List UInt8} (hascii : ∀ b ∈ pattern, b.toNat < 0x80)

include hascii

theorem decode_pattern (ys : List UInt8) :
    decode none (pattern ++ ys) = pattern.map asciiChar ++ decode none ys := by
  induction pattern with
  | nil => rfl
  | cons b pattern ih =>
      rw [List.forall_mem_cons] at hascii
      have hrest := decode_append_ascii hascii.1 none [] (pattern ++ ys)
      rw [List.nil_append, ih hascii.2] at hrest
      exact hrest

theorem eq_append_of_decode_pattern (h : decode none bytes = pattern.map asciiChar ++ after) :
    ∃ ys, bytes = pattern ++ ys ∧ decode none ys = after := by
  induction pattern generalizing bytes with
  | nil => exact ⟨bytes, rfl, h⟩
  | cons b pattern ih =>
      rw [List.forall_mem_cons] at hascii
      have hch : (asciiChar b).toNat < 0x80 := by
        rw [asciiChar_toNat hascii.1]
        exact hascii.1
      rcases @decode_eq_append_ascii none bytes [] _ _ hch h with
        ⟨xs, c, ys, rfl, hc, hsame, hbefore, hrest⟩
      rcases ih hascii.2 hrest with ⟨zs, rfl, hafter⟩
      rw [(eq_nil_of_decode_eq_nil hbefore).2, asciiChar_inj hc hascii.1 hsame]
      exact ⟨zs, rfl, hafter⟩

variable (hne : pattern ≠ [])

include hne

/-- An ASCII pattern of the bytes is one of the text. -/
theorem decode_append_pattern (s : Option Pending) (xs ys : List UInt8) :
    decode s (xs ++ (pattern ++ ys)) =
      decode s xs ++ (pattern.map asciiChar ++ decode none ys) := by
  cases pattern with
  | nil => exact absurd rfl hne
  | cons b pattern =>
      rw [List.forall_mem_cons] at hascii
      rw [List.cons_append, decode_append_ascii hascii.1, decode_pattern hascii.2,
        List.map_cons, List.cons_append]

/-- An ASCII pattern of the text is one of the bytes. -/
theorem exists_of_decode_append_pattern
    (h : decode s bytes = before ++ (pattern.map asciiChar ++ after)) :
    ∃ xs ys, bytes = xs ++ (pattern ++ ys) ∧ decode s xs = before ∧ decode none ys = after := by
  cases pattern with
  | nil => exact absurd rfl hne
  | cons b pattern =>
      rw [List.forall_mem_cons] at hascii
      have hch : (asciiChar b).toNat < 0x80 := by
        rw [asciiChar_toNat hascii.1]
        exact hascii.1
      rcases decode_eq_append_ascii hch h with ⟨xs, c, ys, rfl, hc, hsame, hbefore, hrest⟩
      rcases eq_append_of_decode_pattern hascii.2 hrest with ⟨zs, rfl, hafter⟩
      rw [asciiChar_inj hc hascii.1 hsame]
      exact ⟨xs, zs, rfl, hbefore, hafter⟩

/-- A later occurrence in the bytes is no earlier in the text. -/
theorem length_decode_le {xs ys zs ws : List UInt8} (hle : xs.length ≤ zs.length)
    (h : xs ++ (pattern ++ ys) = zs ++ (pattern ++ ws)) (s : Option Pending) :
    (decode s xs).length ≤ (decode s zs).length := by
  rcases List.append_eq_append_iff.mp h with ⟨middle, rfl, hrest⟩ | ⟨middle, rfl, -⟩
  · cases pattern with
    | nil => exact absurd rfl hne
    | cons b pattern =>
        cases middle with
        | nil => rw [List.append_nil]
        | cons c middle =>
            have hc : c = b := (List.cons.inj hrest).1.symm
            rw [hc, decode_append_ascii (hascii b List.mem_cons_self), List.length_append]
            exact Nat.le_add_right _ _
  · have hnil : middle = [] := by
      rw [List.length_append] at hle
      exact List.length_eq_zero_iff.mp (by omega)
    rw [hnil, List.append_nil]

/-- The search for an ASCII pattern may be made before or after decoding. -/
theorem splitFirst_fromUtf8Lossy (bytes : List UInt8) :
    splitFirst (pattern.map asciiChar) (fromUtf8Lossy bytes) =
      (splitFirst pattern bytes).map fun parts =>
        (fromUtf8Lossy parts.1, fromUtf8Lossy parts.2) := by
  have hne' : pattern.map asciiChar ≠ [] := by
    rw [Ne, List.map_eq_nil_iff]
    exact hne
  cases hsplit : splitFirst pattern bytes with
  | none =>
      rw [Option.map_none, splitFirst_eq_none_iff hne']
      intro before after htext
      rcases exists_of_decode_append_pattern hascii hne htext with ⟨xs, ys, hbytes, -, -⟩
      exact (splitFirst_eq_none_iff hne).mp hsplit xs ys hbytes
  | some parts =>
      rcases (splitFirst_eq_some_iff hne).mp hsplit with ⟨hbytes, hfirst⟩
      rw [Option.map_some, splitFirst_eq_some_iff hne']
      refine ⟨?_, ?_⟩
      · rw [fromUtf8Lossy, hbytes, decode_append_pattern hascii hne]
        rfl
      · intro front back htext
        rcases exists_of_decode_append_pattern hascii hne htext with ⟨xs, ys, hother, rfl, -⟩
        exact length_decode_le hascii hne (hfirst xs ys hother) (hbytes.symm.trans hother) none

end Pattern

end Utf8
end EchoSync
