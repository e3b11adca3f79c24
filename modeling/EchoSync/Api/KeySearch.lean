import EchoSync.Api.Json
import EchoSync.Foundations.FirstMatch

/-!
# API Server - The search for a key

The reader of a value does not parse the text: it takes the first occurrence of the quoted
key, wherever that is, and goes on at the next colon.  In a text of escaped strings the
occurrences are at the strings that end in the key and at the separators that are the key.

Main results:

- Theorem {lit}`afterFirst_quoted`: the search passes over one string.
- Theorem {lit}`afterFirst_separator`: the search passes over one separator.
- Theorem {lit}`readBehind_string`: what is read when the search ends at the opening quote of
  a string.
-/

namespace EchoSync
namespace Api

open FirstMatch

/-! ## First occurrences -/

/-- The search keeps the second part of the split at the first occurrence. -/
theorem afterFirst_eq (pattern text : Text) :
    afterFirst pattern text = (splitFirst pattern text).map Prod.snd := by
  induction text with
  | nil =>
      rw [afterFirst, splitFirst]
      split_ifs <;> rfl
  | cons ch text ih =>
      rw [afterFirst, splitFirst]
      split_ifs
      · rfl
      · rw [ih, Option.map_map]
        rfl

theorem afterFirst_append_left {pattern : Text} (hne : pattern ≠ []) (rest : Text) :
    afterFirst pattern (pattern ++ rest) = some rest := by
  rw [afterFirst_eq, splitFirst_append_self hne, Option.map_some]

theorem afterFirst_of_no_match {pattern : Text} {ch : Char} {text : Text}
    (h : ¬ pattern <+: ch :: text) :
    afterFirst pattern (ch :: text) = afterFirst pattern text := by
  rw [afterFirst, if_neg h]

/-- The search skips what does not contain the first character of the pattern. -/
theorem afterFirst_append {first : Char} {skipped : Text} (h : first ∉ skipped)
    (pattern text : Text) :
    afterFirst (first :: pattern) (skipped ++ text) = afterFirst (first :: pattern) text := by
  induction skipped with
  | nil => rfl
  | cons ch skipped ih =>
      rw [List.mem_cons, not_or] at h
      have hmatch : ¬ first :: pattern <+: ch :: (skipped ++ text) := by
        intro hmatch
        exact h.1 (List.cons_prefix_cons.mp hmatch).1
      rw [List.cons_append, afterFirst_of_no_match hmatch, ih h.2]

/-- A pattern with a character that the text lacks does not occur. -/
theorem afterFirst_eq_none {pattern text : Text} {ch : Char} (hpattern : ch ∈ pattern)
    (htext : ch ∉ text) : afterFirst pattern text = none := by
  have hnone : splitFirst pattern text = none := by
    rw [splitFirst_eq_none_iff (List.ne_nil_of_mem hpattern)]
    rintro before after rfl
    exact htext (List.mem_append_right _ (List.mem_append_left _ hpattern))
  rw [afterFirst_eq, hnone, Option.map_none]

/-- A text lacks a character, or the search for it ends at its first occurrence. -/
theorem afterFirst_singleton (ch : Char) (text : Text) :
    (ch ∉ text ∧ afterFirst [ch] text = none) ∨
      ∃ before rest, ch ∉ before ∧ text = before ++ ch :: rest ∧
        afterFirst [ch] text = some rest := by
  by_cases hmem : ch ∈ text
  · right
    rcases List.eq_append_cons_of_mem hmem with ⟨before, rest, rfl, hbefore⟩
    refine ⟨before, rest, hbefore, rfl, ?_⟩
    rw [afterFirst_append hbefore]
    exact afterFirst_append_left (List.cons_ne_nil ch []) rest
  · left
    exact ⟨hmem, afterFirst_eq_none (List.mem_singleton_self ch) hmem⟩

/-! ## Escaped strings -/

/-- A character is written as it is, or behind a backslash. -/
theorem escapeChar_cases (ch : Char) :
    (escapeChar ch = [ch] ∧ ch ≠ '"' ∧ ch ≠ '\\') ∨
      ∃ behind, escapeChar ch = ['\\', behind] ∧ (ch = '"' ↔ behind = '"') := by
  unfold escapeChar
  split_ifs with hquote hbackslash hnewline hreturn htab
  · exact Or.inr ⟨'"', rfl, by simp [hquote]⟩
  · exact Or.inr ⟨'\\', rfl, by simp [hbackslash]⟩
  · exact Or.inr ⟨'n', rfl, by simp [hnewline]⟩
  · exact Or.inr ⟨'r', rfl, by simp [hreturn]⟩
  · exact Or.inr ⟨'t', rfl, by simp [htab]⟩
  · exact Or.inl ⟨rfl, hquote, hbackslash⟩

/-- The characters written: those that are written as they are, and those of the escapes. -/
theorem mem_escapeChar {written ch : Char} (h : written ∈ escapeChar ch) :
    (written = ch ∧ escapeChar ch = [ch]) ∨ written ∈ ['\\', '"', 'n', 'r', 't'] := by
  unfold escapeChar at *
  split_ifs at h ⊢
  all_goals simp only [List.mem_cons, List.not_mem_nil, or_false] at h ⊢
  all_goals tauto

theorem jsonEscape_cons (ch : Char) (s : Text) :
    jsonEscape (ch :: s) = escapeChar ch ++ jsonEscape s :=
  List.flatMap_cons

theorem jsonEscape_append (s s' : Text) : jsonEscape (s ++ s') = jsonEscape s ++ jsonEscape s' :=
  List.flatMap_append

theorem quoted_append (s rest : Text) :
    quoted s ++ rest = '"' :: (jsonEscape s ++ '"' :: rest) := by
  rw [quoted, List.cons_append, List.append_assoc, List.singleton_append]

/-- A text that is written as it is. -/
def Plain (key : Text) : Prop :=
  ∀ ch ∈ key, escapeChar ch = [ch]

instance (key : Text) : Decidable (Plain key) :=
  List.decidableBAll (fun ch => escapeChar ch = [ch]) key

/-- A string that is the key, or that ends in a quote and the key. -/
def EndsIn (key s : Text) : Prop :=
  '"' :: key <:+ '"' :: s

instance (key s : Text) : Decidable (EndsIn key s) :=
  inferInstanceAs (Decidable ('"' :: key <:+ '"' :: s))

section Strings

variable {key : Text}

theorem Plain.notMem_quote (h : Plain key) : '"' ∉ key := by
  intro hmem
  exact absurd (h _ hmem) (by decide)

theorem Plain.jsonEscape_eq (h : Plain key) : jsonEscape key = key := by
  induction key with
  | nil => rfl
  | cons ch key ih =>
      rw [jsonEscape_cons, h ch List.mem_cons_self,
        ih fun ch' hmem => h ch' (List.mem_cons_of_mem _ hmem)]
      rfl

/-- What is written for a string begins with the key and a quote only if it is the key. -/
theorem Plain.begins_jsonEscape_iff (h : Plain key) (s rest : Text) :
    key ++ ['"'] <+: jsonEscape s ++ '"' :: rest ↔ s = key := by
  constructor
  · rintro ⟨tail, htail⟩
    rw [List.append_assoc, List.singleton_append] at htail
    have hwritten : jsonEscape key ++ '"' :: tail = jsonEscape s ++ '"' :: rest := by
      rw [h.jsonEscape_eq, htail]
    -- both are read up to the closing quote
    have hread := congrArg (scanValue []) hwritten
    rw [scanValue_jsonEscape, scanValue_jsonEscape] at hread
    exact (Option.some.inj hread).symm
  · rintro rfl
    rw [h.jsonEscape_eq]
    exact ⟨rest, by simp⟩

/-! ## The search in a string -/

/-- The text that is searched for. -/
def keyPattern (key : Text) : Text :=
  '"' :: key ++ ['"']

/-- The search skips what has no quote. -/
theorem afterFirst_skip {skipped : Text} (h : '"' ∉ skipped) (text : Text) :
    afterFirst (keyPattern key) (skipped ++ text) = afterFirst (keyPattern key) text :=
  afterFirst_append h (key ++ ['"']) text

/-- At a quote that a string follows, the search ends if the string is the key. -/
theorem afterFirst_quote (h : Plain key) (s rest : Text) :
    afterFirst (keyPattern key) ('"' :: (jsonEscape s ++ '"' :: rest)) =
      if s = key then some rest
      else afterFirst (keyPattern key) (jsonEscape s ++ '"' :: rest) := by
  split_ifs with hsame
  · have hfound : '"' :: (jsonEscape s ++ '"' :: rest) = keyPattern key ++ rest := by
      rw [hsame, h.jsonEscape_eq]
      simp [keyPattern]
    rw [hfound]
    exact afterFirst_append_left (List.cons_ne_nil _ _) rest
  · apply afterFirst_of_no_match
    intro hmatch
    rw [keyPattern, List.cons_append, List.cons_prefix_cons] at hmatch
    exact hsame ((h.begins_jsonEscape_iff s rest).mp hmatch.2)

/-- A string ends in the key if it is the key or ends in a quote and the key. -/
theorem endsIn_iff (key s : Text) : EndsIn key s ↔ s = key ∨ '"' :: key <:+ s := by
  rw [EndsIn, List.suffix_cons_iff, List.cons.injEq, eq_self, true_and, @eq_comm _ key s]

theorem ite_endsIn (key s : Text) (found missed : Option Text) :
    (if s = key then found else if '"' :: key <:+ s then found else missed) =
      if EndsIn key s then found else missed := by
  by_cases hsame : s = key
  · rw [if_pos hsame, if_pos ((endsIn_iff key s).mpr (Or.inl hsame))]
  · simp only [hsame, if_false, endsIn_iff, false_or]

/-- Within a string, the search ends behind it if the string ends in a quote and the key. -/
theorem afterFirst_jsonEscape (h : Plain key) (s rest : Text) :
    afterFirst (keyPattern key) (jsonEscape s ++ '"' :: rest) =
      if '"' :: key <:+ s then some rest else afterFirst (keyPattern key) ('"' :: rest) := by
  induction s with
  | nil =>
      rw [if_neg (by simp)]
      rfl
  | cons ch s ih =>
      rw [jsonEscape_cons, List.append_assoc]
      by_cases hquote : ch = '"'
      · -- an occurrence can begin at the quote behind the backslash
        have hskip : afterFirst (keyPattern key) (escapeChar '"' ++ (jsonEscape s ++ '"' :: rest)) =
            afterFirst (keyPattern key) ('"' :: (jsonEscape s ++ '"' :: rest)) :=
          @afterFirst_skip key ['\\'] (by decide) _
        rw [hquote, hskip, afterFirst_quote h, ih, ite_endsIn]
        rfl
      · have hskip : '"' ∉ escapeChar ch := by
          rcases escapeChar_cases ch with ⟨hch, -, -⟩ | ⟨behind, hch, hbehind⟩
          · rw [hch, List.mem_singleton]
            exact Ne.symm hquote
          · have hne : behind ≠ '"' := fun hsame => hquote (hbehind.mpr hsame)
            rw [hch, List.mem_cons, List.mem_singleton, not_or]
            exact ⟨by decide, hne.symm⟩
        have hpass : afterFirst (keyPattern key) (escapeChar ch ++ (jsonEscape s ++ '"' :: rest)) =
            afterFirst (keyPattern key) (jsonEscape s ++ '"' :: rest) :=
          afterFirst_skip hskip _
        rw [hpass, ih]
        simp [List.suffix_cons_iff, Ne.symm hquote]

/-- The search passes over one string. -/
theorem afterFirst_quoted (h : Plain key) (s rest : Text) :
    afterFirst (keyPattern key) (quoted s ++ rest) =
      if EndsIn key s then some rest else afterFirst (keyPattern key) ('"' :: rest) := by
  rw [quoted_append, afterFirst_quote h, afterFirst_jsonEscape h, ite_endsIn]

/-! ## The search between strings -/

/-- A text without a quote is what stands before the quote that follows it. -/
theorem takeWhile_quote {text : Text} (h : '"' ∉ text) (rest : Text) :
    (text ++ '"' :: rest).takeWhile (· != '"') = text := by
  have hother : ∀ ch ∈ text, (ch != '"') = true := by
    intro ch hmem
    exact bne_iff_ne.mpr fun hsame => h (hsame ▸ hmem)
  rw [List.takeWhile_append_of_pos hother, List.takeWhile_cons_of_neg (by simp), List.append_nil]

/-- A separator and a quote begin with the key and a quote only if the separator is the key. -/
theorem begins_separator_iff {sep : Text} (hkey : '"' ∉ key) (hsep : '"' ∉ sep) (rest : Text) :
    key ++ ['"'] <+: sep ++ '"' :: rest ↔ sep = key := by
  constructor
  · rintro ⟨tail, htail⟩
    rw [List.append_assoc, List.singleton_append] at htail
    have htake := congrArg (List.takeWhile (· != '"')) htail
    rw [takeWhile_quote hkey, takeWhile_quote hsep] at htake
    exact htake.symm
  · rintro rfl
    exact ⟨rest, by simp⟩

/-- At the closing quote of a string, the search ends if the separator is the key. -/
theorem afterFirst_separator (hkey : '"' ∉ key) {sep : Text} (hsep : '"' ∉ sep)
    (s rest : Text) :
    afterFirst (keyPattern key) ('"' :: (sep ++ (quoted s ++ rest))) =
      if sep = key then some (jsonEscape s ++ '"' :: rest)
      else afterFirst (keyPattern key) (quoted s ++ rest) := by
  rw [quoted_append]
  split_ifs with hsame
  · have hfound : '"' :: (sep ++ '"' :: (jsonEscape s ++ '"' :: rest)) =
        keyPattern key ++ (jsonEscape s ++ '"' :: rest) := by
      simp [hsame, keyPattern]
    rw [hfound]
    exact afterFirst_append_left (List.cons_ne_nil _ _) _
  · have hmatch : ¬ keyPattern key <+: '"' :: (sep ++ '"' :: (jsonEscape s ++ '"' :: rest)) := by
      intro hmatch
      rw [keyPattern, List.cons_append, List.cons_prefix_cons] at hmatch
      exact hsame ((begins_separator_iff hkey hsep _).mp hmatch.2)
    rw [afterFirst_of_no_match hmatch, afterFirst_skip hsep]

/-- The search goes on at the next string. -/
theorem afterFirst_pass (h : Plain key) {s sep : Text} (hends : ¬ EndsIn key s)
    (hsep : '"' ∉ sep) (hne : sep ≠ key) (s' rest : Text) :
    afterFirst (keyPattern key) (quoted s ++ (sep ++ (quoted s' ++ rest))) =
      afterFirst (keyPattern key) (quoted s' ++ rest) := by
  rw [afterFirst_quoted h, if_neg hends, afterFirst_separator h.notMem_quote hsep, if_neg hne]

/-- No occurrence is in a text without a quote. -/
theorem afterFirst_of_notMem_quote {text : Text} (h : '"' ∉ text) :
    afterFirst (keyPattern key) text = none :=
  afterFirst_eq_none List.mem_cons_self h

/-- No occurrence begins at the last quote of a text. -/
theorem afterFirst_last {tail : Text} (htail : '"' ∉ tail) :
    afterFirst (keyPattern key) ('"' :: tail) = none := by
  have hmatch : ¬ keyPattern key <+: '"' :: tail := by
    intro hmatch
    rw [keyPattern, List.cons_append, List.cons_prefix_cons] at hmatch
    exact htail (hmatch.2.subset (List.mem_append_right _ (List.mem_singleton_self _)))
  rw [afterFirst_of_no_match hmatch, afterFirst_of_notMem_quote htail]

end Strings

/-! ## What is read behind the key -/

/-- The value of a string at the start of a text. -/
def readQuoted : Text → Option Text
  | '"' :: chars => scanValue [] chars
  | _ => none

/-- The value behind the next colon. -/
def readBehind (afterKey : Text) : Option Text :=
  (afterFirst [':'] afterKey).bind fun afterColon => readQuoted (trimStart afterColon)

/-- The reader searches for the quoted key and reads behind it. -/
theorem jsonStringValue_eq (body key : Text) :
    jsonStringValue body key = (afterFirst (keyPattern key) body).bind readBehind :=
  rfl

theorem readQuoted_quoted (s rest : Text) : readQuoted (quoted s ++ rest) = some s := by
  rw [quoted_append, readQuoted, scanValue_jsonEscape, List.nil_append]

theorem trimStart_quoted (s rest : Text) : trimStart (quoted s ++ rest) = quoted s ++ rest := by
  rw [trimStart, quoted, List.cons_append, List.dropWhile_cons_of_neg (by decide)]

/-- A string behind the colon is read. -/
theorem readBehind_colon (s rest : Text) : readBehind (':' :: (quoted s ++ rest)) = some s := by
  have hcolon : afterFirst [':'] (':' :: (quoted s ++ rest)) = some (quoted s ++ rest) :=
    afterFirst_append_left (List.cons_ne_nil ':' []) _
  rw [readBehind, hcolon, Option.bind_some, trimStart_quoted, readQuoted_quoted]

/-- What has no colon is skipped. -/
theorem readBehind_append {skipped : Text} (h : ':' ∉ skipped) (text : Text) :
    readBehind (skipped ++ text) = readBehind text := by
  rw [readBehind, afterFirst_append h, readBehind]

theorem readBehind_of_notMem {text : Text} (h : ':' ∉ text) : readBehind text = none := by
  rw [readBehind, afterFirst_eq_none (List.mem_singleton_self ':') h, Option.bind_none]

/-- White space that is written as it is. -/
def Blank (s : Text) : Prop :=
  ∀ ch ∈ s, isWhiteSpace ch = true ∧ escapeChar ch = [ch]

instance (s : Text) : Decidable (Blank s) :=
  List.decidableBAll (fun ch => isWhiteSpace ch = true ∧ escapeChar ch = [ch]) s

/-- From within a string, the closing quote is taken for an opening one if only white space is
before it. -/
theorem readQuoted_trimStart (s rest : Text) :
    readQuoted (trimStart (jsonEscape s ++ '"' :: rest)) =
      if Blank s then scanValue [] rest else none := by
  induction s with
  | nil =>
      have htrim : trimStart ('"' :: rest) = '"' :: rest :=
        List.dropWhile_cons_of_neg (by decide)
      have hblank : Blank [] := fun _ hmem => absurd hmem List.not_mem_nil
      rw [if_pos hblank]
      exact congrArg readQuoted htrim
  | cons ch s ih =>
      have hblank : Blank (ch :: s) ↔
          (isWhiteSpace ch = true ∧ escapeChar ch = [ch]) ∧ Blank s :=
        List.forall_mem_cons
      rw [jsonEscape_cons, List.append_assoc, trimStart]
      rcases escapeChar_cases ch with ⟨hch, hquote, -⟩ | ⟨behind, hch, -⟩
      · rw [hch, List.singleton_append]
        by_cases hspace : isWhiteSpace ch = true
        · rw [List.dropWhile_cons_of_pos hspace, ← trimStart, ih]
          simp only [hblank, hspace, hch, and_self, true_and]
        · rw [List.dropWhile_cons_of_neg hspace, if_neg fun h => hspace (hblank.mp h).1.1]
          unfold readQuoted
          split
          · rename_i heq
            exact absurd (List.cons.inj heq).1 hquote
          · rfl
      · have hplain : ¬ escapeChar ch = [ch] := by
          rw [hch]
          intro h
          exact absurd (List.cons.inj h).2 (List.cons_ne_nil _ _)
        rw [hch, List.cons_append, List.dropWhile_cons_of_neg (by decide),
          if_neg fun h => hplain (hblank.mp h).1.2]
        rfl

theorem notMem_jsonEscape {ch : Char} {s : Text} (hch : ch ∉ ['\\', '"', 'n', 'r', 't'])
    (h : ch ∉ s) : ch ∉ jsonEscape s := by
  intro hmem
  rcases List.mem_flatMap.mp hmem with ⟨written, hs, hwritten⟩
  rcases mem_escapeChar hwritten with ⟨rfl, -⟩ | hescape
  · exact h hs
  · exact hch hescape

/-- From the start of a string, the next colon is one in the string, or one behind it. -/
theorem readBehind_string (s rest : Text) :
    readBehind (jsonEscape s ++ '"' :: rest) =
      match afterFirst [':'] s with
      | none => readBehind rest
      | some behind => if Blank behind then scanValue [] rest else none := by
  rcases afterFirst_singleton ':' s with ⟨hnone, hsearch⟩ | ⟨before, behind, hbefore, rfl, hsearch⟩
  · have hskip : ':' ∉ jsonEscape s ++ ['"'] := by
      rw [List.mem_append, not_or]
      exact ⟨notMem_jsonEscape (by decide) hnone, by decide⟩
    have hpass := readBehind_append hskip rest
    rw [List.append_assoc, List.singleton_append] at hpass
    rw [hpass, hsearch]
  · have hwritten : jsonEscape (before ++ ':' :: behind) ++ '"' :: rest =
        jsonEscape before ++ ([':'] ++ (jsonEscape behind ++ '"' :: rest)) := by
      rw [jsonEscape_append, jsonEscape_cons, List.append_assoc, List.append_assoc]
      rfl
    rw [hwritten, readBehind_append (notMem_jsonEscape (by decide) hbefore), readBehind,
      afterFirst_append_left (List.cons_ne_nil _ _), Option.bind_some, readQuoted_trimStart,
      hsearch]

end Api
end EchoSync
