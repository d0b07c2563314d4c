import Likeness.Text.Utf8

/-!
# Lines

Three line breaks occur in files: line feed, carriage return, and the two
together.  Reading turns each into a line feed; a line then ends at a line feed
and nowhere else.  A file that is read line by line is decoded in chunks, so that
the lines before a chunk that is not UTF-8 can still be read.
-/

namespace Likeness.Text

/-- Every line break as a line feed. -/
def unifyBreaks : List Char → List Char
  | [] => []
  | '\r' :: '\n' :: rest => '\n' :: unifyBreaks rest
  | '\r' :: rest => '\n' :: unifyBreaks rest
  | c :: rest => c :: unifyBreaks rest

/-- The lines of a text whose breaks are line feeds, without the breaks, and the
    unfinished line behind the last break. -/
def splitLines : List Char → List (List Char) × List Char
  | [] => ([], [])
  | c :: rest =>
    let (lines, last) := splitLines rest
    if c = '\n' then
      ([] :: lines, last)
    else
      match lines with
      | [] => ([], c :: last)
      | line :: lines => ((c :: line) :: lines, last)

/-- The lines of a text; a text that does not end in a break has an unfinished
    last line. -/
def linesOf (s : List Char) : List (List Char) :=
  let (lines, last) := splitLines s
  if last.isEmpty then lines else lines ++ [last]

/-! ## Chunks -/

/-- How many bytes a chunk has. -/
def chunkSize : Nat := 8192

/-- A fault may be due to the end of a chunk: the sequence is cut off, or it is the
    beginning of a surrogate, which is refused only with its last byte. -/
def mayGoOn (chunk : List UInt8) (f : Utf8.Fault) : Bool :=
  match f.cause with
  | .truncated => true
  | .invalidContinuation =>
    match chunk.drop f.position with
    | [lead, next] => lead = 0xED && 0xA0 ≤ next && next ≤ 0xBF
    | _ => false
  | .invalidStart => false

/-- The characters of a chunk and the bytes that it leaves unfinished. -/
def decodeChunk (chunk : List UInt8) : Except Utf8.Fault (List Char × List UInt8) :=
  let d := Utf8.decode chunk
  match d.fault with
  | none => .ok (d.chars, [])
  | some f => if mayGoOn chunk f then .ok (d.chars, chunk.drop f.position) else .error f

/-- Decodes chunk by chunk.  What a chunk leaves unfinished is read with the next
    one; the place of a fault is counted in the chunk in which it is found, and of
    that chunk nothing is decoded. -/
def decodeChunks : Nat → List UInt8 → List UInt8 → Utf8.Decoded
  | 0, _, _ => ⟨[], none⟩
  | fuel + 1, carry, bytes =>
    match bytes with
    | [] => ⟨[], (Utf8.decode carry).fault⟩
    | b :: rest =>
      match decodeChunk (carry ++ (b :: rest).take chunkSize) with
      | .ok (cs, carry) =>
        let d := decodeChunks fuel carry ((b :: rest).drop chunkSize)
        ⟨cs ++ d.chars, d.fault⟩
      | .error f => ⟨[], some f⟩

/-- The bytes of a file decoded chunk by chunk. -/
def decodeStream (bytes : List UInt8) : Utf8.Decoded := decodeChunks (bytes.length + 1) [] bytes

/-- The lines of a file that can be read, and why no more can. -/
structure Streamed where
  lines : List (List Char)
  fault : Option Utf8.Fault

/-- A text without a carriage return at its end, which may be half a break. -/
def withoutHalfBreak (s : List Char) : List Char :=
  if s.getLast? = some '\r' then s.dropLast else s

/-- The lines of a file.  Before a fault only finished lines can be read. -/
def streamLines (bytes : List UInt8) : Streamed :=
  let d := decodeStream bytes
  match d.fault with
  | none => ⟨linesOf (unifyBreaks d.chars), none⟩
  | some f => ⟨(splitLines (unifyBreaks (withoutHalfBreak d.chars))).1, some f⟩

end Likeness.Text
