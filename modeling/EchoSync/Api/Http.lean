import EchoSync.Api.Server
import EchoSync.Foundations.Utf8
import EchoSync.Runtime.Machine

/-!
# API Server - Reading a request

A connection delivers the bytes of a request in reads of the size of the buffer at most.  The
loop collects them until the connection ends or the bytes reach the length that the header
announces, and decodes what it has collected; the request line and the body are cut out of the
decoded text.

Main results:

- Theorem {lit}`findHeaderEnd_eq`: the end of the header is the first blank line.
- Theorem {lit}`totalExpected_of_fits`, {lit}`totalExpected_of_overflow`: the announced length
  in machine arithmetic.
- Theorem {lit}`splitFirst_blankLine`: the text is cut where the bytes were.
-/

namespace EchoSync
namespace Api

open FirstMatch Utf8

/-! ## Lines and words -/

/-- A line without its carriage return. -/
def stripReturn (line : Text) : Text :=
  if line.getLast? = some '\r' then line.dropLast else line

/-- The lines of a text, of which the first has begun. -/
def linesFrom (line : Text) : Text → List Text
  | [] => if line = [] then [] else [line]
  | ch :: text =>
      if ch = '\n' then stripReturn line :: linesFrom [] text else linesFrom (line ++ [ch]) text

/-- The lines of a text. -/
def lines (text : Text) : List Text :=
  linesFrom [] text

/-- The words of a text, of which the first has begun. -/
def splitWhitespaceFrom (word : Text) : Text → List Text
  | [] => if word = [] then [] else [word]
  | ch :: text =>
      if isWhiteSpace ch then
        if word = [] then splitWhitespaceFrom [] text else word :: splitWhitespaceFrom [] text
      else splitWhitespaceFrom (word ++ [ch]) text

/-- The words of a text. -/
def splitWhitespace (text : Text) : List Text :=
  splitWhitespaceFrom [] text

/-- The text without the white space around it. -/
def trim (text : Text) : Text :=
  (trimStart text).rdropWhile isWhiteSpace

/-- Equality up to the case of ASCII letters. -/
def eqIgnoreAsciiCase (text other : Text) : Bool :=
  text.map Char.toLower == other.map Char.toLower

/-! ## The announced length -/

/-- One digit more, if the number stays in range. -/
def pushDigit (value : U64) (ch : Char) : Option U64 :=
  if h : ch.isDigit = true ∧ value.val * 10 + (ch.toNat - '0'.toNat) < 2 ^ 64 then
    some ⟨value.val * 10 + (ch.toNat - '0'.toNat), h.2⟩
  else none

/-- A decimal number, which may have a plus sign. -/
def parseUsize (text : Text) : Option U64 :=
  let digits := match text with
    | '+' :: digits => digits
    | _ => text
  if digits = [] then none else digits.foldlM pushDigit 0

/-- The length that a line of the header announces. -/
def announcedLength (line : Text) : Option U64 := do
  let (name, value) ← splitFirst [':'] line
  if eqIgnoreAsciiCase name "content-length".toList then parseUsize (trim value) else none

/-- The length that the header announces, zero if it announces none. -/
def contentLength (headers : Text) : U64 :=
  ((lines headers).findSome? announcedLength).getD 0

/-! ## The loop -/

/-- The length of the longest vector of bytes. -/
def isizeMax : Nat :=
  2 ^ 63 - 1

/-- A vector of bytes. -/
abbrev ByteVec := {bytes : List UInt8 // bytes.length ≤ isizeMax}

/-- The bytes in the buffer after a read. -/
abbrev Chunk := {bytes : List UInt8 // bytes.length ≤ 4096}

/-- A longer vector; growing it beyond the longest one panics. -/
def ByteVec.extendFromSlice (bytes : ByteVec) (slice : List UInt8) : Option ByteVec :=
  if h : (bytes.val ++ slice).length ≤ isizeMax then some ⟨bytes.val ++ slice, h⟩ else none

/-- What ends the header. -/
def blankLine : List UInt8 :=
  [0x0d, 0x0a, 0x0d, 0x0a]

/-- The position of the end of the header. -/
def findHeaderEnd (bytes : List UInt8) : Option Nat :=
  (windows 4 bytes).findIdx? fun window => decide (window = blankLine)

/-- The length that the header announces, which ends at this position. -/
def declaredLength (bytes : List UInt8) (headerEnd : Nat) : U64 :=
  contentLength (fromUtf8Lossy (bytes.take headerEnd))

/-- The length of the whole request, if its computation does not panic. -/
def totalExpected (profile : BuildProfile) (headerEnd : Nat) (declared : U64) : Option U64 := do
  let bodyStart ← U64.add profile (U64.wrap headerEnd) 4
  U64.add profile bodyStart declared

/-- What a call of {lit}`read` gives; no bytes are the end of the stream. -/
inductive Read (ε : Type) where
  | data (chunk : Chunk)
  | error (error : ε)

/-- Where the loop is left: at the end of the stream, or with a complete request. -/
inductive Break where
  | endOfStream
  | complete
deriving DecidableEq

/-- The loop: still reading, left, returned with the error of a read, or panicked. -/
inductive Reading (ε : Type) where
  | reading (bytes : ByteVec)
  | stopped (bytes : ByteVec) (left : Break)
  | failed (error : ε)
  | panicked
deriving DecidableEq

namespace Reading

variable {ε : Type} {profile : BuildProfile}

/-- Nothing has been read. -/
def initial : Reading ε :=
  .reading ⟨[], Nat.zero_le _⟩

/-- The bytes so far, after a read that was not the last of the stream. -/
def check (profile : BuildProfile) (bytes : ByteVec) : Reading ε :=
  match findHeaderEnd bytes.val with
  | none => .reading bytes
  | some headerEnd =>
      match totalExpected profile headerEnd (declaredLength bytes.val headerEnd) with
      | none => .panicked
      | some total =>
          if total.val ≤ bytes.val.length then .stopped bytes .complete else .reading bytes

/-- One round of the loop. -/
def receive (profile : BuildProfile) (bytes : ByteVec) (chunk : Chunk) : Reading ε :=
  if chunk.val = [] then .stopped bytes .endOfStream
  else
    match bytes.extendFromSlice chunk.val with
    | none => .panicked
    | some bytes => check profile bytes

/-- One call of {lit}`read`; after the loop there is none. -/
def step (profile : BuildProfile) : Reading ε → Read ε → Reading ε
  | .reading bytes, .data chunk => receive profile bytes chunk
  | .reading _, .error error => .failed error
  | .stopped bytes left, _ => .stopped bytes left
  | .failed error, _ => .failed error
  | .panicked, _ => .panicked

/-- A read at the end of the stream. -/
theorem receive_of_nil {bytes : ByteVec} {chunk : Chunk} (h : chunk.val = []) :
    receive (ε := ε) profile bytes chunk = .stopped bytes .endOfStream := by
  rw [receive, if_pos h]

/-- A read that the vector has room for. -/
theorem receive_of_fits {bytes : ByteVec} {chunk : Chunk} (hne : chunk.val ≠ [])
    (h : (bytes.val ++ chunk.val).length ≤ isizeMax) :
    receive (ε := ε) profile bytes chunk = check profile ⟨bytes.val ++ chunk.val, h⟩ := by
  rw [receive, if_neg hne, ByteVec.extendFromSlice, dif_pos h]

/-- A read that the vector has no room for. -/
theorem receive_of_not_fits {bytes : ByteVec} {chunk : Chunk} (hne : chunk.val ≠ [])
    (h : ¬ (bytes.val ++ chunk.val).length ≤ isizeMax) :
    receive (ε := ε) profile bytes chunk = .panicked := by
  rw [receive, if_neg hne, ByteVec.extendFromSlice, dif_neg h]

/-- What {lit}`read_http_request` returns, once it does. -/
def outcome : Reading ε → Option (Outcome ε Text)
  | .reading _ => none
  | .stopped bytes _ => some (.ok (fromUtf8Lossy bytes.val))
  | .failed error => some (.err error)
  | .panicked => some .panicked

end Reading

/-- The loop after these reads. -/
def readHttpRequest {ε : Type} (profile : BuildProfile) (reads : List (Read ε)) : Reading ε :=
  reads.foldl (Reading.step profile) .initial

/-! ## The parts of a request -/

/-- The parts of a request that the server looks at, none of an empty one. -/
def parseRequest (request : Text) : Option Request :=
  if request = [] then none
  else
    let requestLine := (lines request).head?.getD []
    let parts := splitWhitespace requestLine
    some
      { method := parts[0]?.getD []
        path := parts[1]?.getD []
        body := ((splitFirst "\r\n\r\n".toList request).map Prod.snd).getD [] }

/-- What a connection does with the text that it has read. -/
def handleText (request : Text) : Option Phase :=
  (parseRequest request).map handleClient

/-- A creation is given the body of its request. -/
theorem handleClient_eq_createRoom {request : Request} {body : Text}
    (h : handleClient request = .createRoom body) : body = request.body := by
  unfold handleClient at h
  split_ifs at h
  cases h
  rfl

/-! ## The end of the header -/

variable {bytes head body : List UInt8}

theorem blankLine_ne_nil : blankLine ≠ [] :=
  List.cons_ne_nil _ _

/-- The end of the header is the first blank line. -/
theorem findHeaderEnd_eq (bytes : List UInt8) :
    findHeaderEnd bytes = (splitFirst blankLine bytes).map fun parts => parts.1.length :=
  findIdx?_windows blankLine_ne_nil bytes

/-- The header is what is before the first blank line. -/
theorem splitFirst_of_findHeaderEnd
    (h : findHeaderEnd (head ++ (blankLine ++ body)) = some head.length) :
    splitFirst blankLine (head ++ (blankLine ++ body)) = some (head, body) := by
  rw [findHeaderEnd_eq, Option.map_eq_some_iff] at h
  rcases h with ⟨⟨front, back⟩, hsplit, hlength⟩
  rcases List.append_inj (eq_append_of_splitFirst hsplit) hlength.symm with ⟨hfront, hrest⟩
  rw [hsplit, hfront, List.append_cancel_left hrest]

/-- The end of the header is within the bytes. -/
theorem findHeaderEnd_le {headerEnd : Nat} (h : findHeaderEnd bytes = some headerEnd) :
    headerEnd + 4 ≤ bytes.length := by
  rw [findHeaderEnd_eq, Option.map_eq_some_iff] at h
  rcases h with ⟨parts, hsplit, rfl⟩
  have hlength := congrArg List.length (eq_append_of_splitFirst hsplit)
  rw [List.length_append, List.length_append] at hlength
  have hblank : blankLine.length = 4 := rfl
  omega

/-! ## The announced length in machine arithmetic -/

section Total

variable {headerEnd : Nat} {declared total : U64}

theorem totalExpected_eq (profile : BuildProfile) (hend : headerEnd + 4 < 2 ^ 64)
    (declared : U64) :
    totalExpected profile headerEnd declared = U64.add profile ⟨headerEnd + 4, hend⟩ declared := by
  have hwrap : (U64.wrap headerEnd).val = headerEnd :=
    U64.wrap_val_of_lt (lt_of_le_of_lt (Nat.le_add_right headerEnd 4) hend)
  have hstart : (U64.wrap headerEnd).val + (4 : U64).val < 2 ^ 64 := by
    rw [hwrap]
    exact hend
  have hsame : (⟨(U64.wrap headerEnd).val + (4 : U64).val, hstart⟩ : U64) =
      ⟨headerEnd + 4, hend⟩ :=
    Fin.ext (congrArg (· + 4) hwrap)
  rw [totalExpected, U64.add_of_fits profile hstart, hsame]
  rfl

/-- A length in range. -/
theorem totalExpected_of_fits (profile : BuildProfile)
    (h : headerEnd + 4 + declared.val < 2 ^ 64) :
    totalExpected profile headerEnd declared = some ⟨headerEnd + 4 + declared.val, h⟩ := by
  have hend : headerEnd + 4 < 2 ^ 64 := lt_of_le_of_lt (Nat.le_add_right _ _) h
  rw [totalExpected_eq profile hend]
  exact U64.add_of_fits profile h

/-- A length out of range, if there is one at all, ends within the header. -/
theorem totalExpected_of_overflow {profile : BuildProfile} (hend : headerEnd + 4 < 2 ^ 64)
    (h : 2 ^ 64 ≤ headerEnd + 4 + declared.val)
    (htotal : totalExpected profile headerEnd declared = some total) :
    total.val < headerEnd + 4 := by
  rw [totalExpected_eq profile hend] at htotal
  have hsum := U64.add_of_overflow h htotal
  have hdeclared := declared.isLt
  simp only at hsum
  omega

end Total

/-! ## The decoded text -/

theorem blankLine_ascii : ∀ b ∈ blankLine, b.toNat < 0x80 := by
  simp [blankLine]

theorem blankLine_text : blankLine.map asciiChar = "\r\n\r\n".toList :=
  rfl

/-- The text is cut where the bytes were. -/
theorem splitFirst_blankLine (bytes : List UInt8) :
    splitFirst "\r\n\r\n".toList (fromUtf8Lossy bytes) =
      (splitFirst blankLine bytes).map fun parts =>
        (fromUtf8Lossy parts.1, fromUtf8Lossy parts.2) := by
  rw [← blankLine_text]
  exact splitFirst_fromUtf8Lossy blankLine_ascii blankLine_ne_nil bytes

/-- The body of a request is what is behind the first blank line. -/
theorem exists_parseRequest (h : splitFirst blankLine bytes = some (head, body)) :
    ∃ request, parseRequest (fromUtf8Lossy bytes) = some request ∧
      request.body = fromUtf8Lossy body := by
  have hne : fromUtf8Lossy bytes ≠ [] := by
    intro hnil
    rw [(eq_nil_of_decode_eq_nil hnil).2] at h
    cases h
  refine ⟨_, by rw [parseRequest, if_neg hne], ?_⟩
  simp only [splitFirst_blankLine, h, Option.map_some, Option.getD_some]

end Api
end EchoSync
