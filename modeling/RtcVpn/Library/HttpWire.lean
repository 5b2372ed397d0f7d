import RtcVpn.Library.Text

/-!
# HTTP/1.x messages on the wire

A reader of HTTP/1.0 and HTTP/1.1 messages, written from the message syntax:
a start line, header fields, and a body whose end is told by the start line and
the header fields alone. What is printed is read back as it was, whatever
follows it, and a body written in chunks is read back however it was cut.
-/

namespace RtcVpn

namespace HttpWire

/-! ## Messages -/

/-- A header field or a field of the trailer. -/
structure Field where
  name : List UInt8
  value : List UInt8
  deriving DecidableEq, Repr

/-- The versions with this syntax. -/
inductive Version where
  | http10
  | http11
  deriving DecidableEq, Repr

/-- Whose messages are read. -/
inductive Kind where
  | request
  | response
  deriving DecidableEq, Repr

/-- The start line of a request or of a response. -/
inductive StartLine where
  | request (method target : List UInt8) (version : Version)
  | status (version : Version) (code : Nat) (reason : List UInt8)
  deriving DecidableEq, Repr

/-- A message; `ended` tells that its end is marked, not that of the connection. -/
structure WireMessage where
  start : StartLine
  fields : List Field
  body : List UInt8
  trailers : List Field
  ended : Bool
  deriving DecidableEq, Repr

/-- The kind of a start line. -/
def StartLine.kind : StartLine → Kind
  | .request _ _ _ => .request
  | .status _ _ _ => .response

/-! ## Framing -/

/-- How the end of a body is told. -/
inductive Framing where
  | empty
  | length (n : Nat)
  | chunked
  | untilClose
  deriving DecidableEq, Repr

/-- Space and tab. -/
def isBlank (c : UInt8) : Bool := c == 0x20 || c == 0x09

/-- The values of the fields of a name, which is in lower case. -/
def valuesOf (name : List UInt8) (fields : List Field) : List (List UInt8) :=
  (fields.filter fun f => f.name.map toLower == name).map Field.value

/-- The last element of a list separated by commas, without the space around it. -/
def lastElement (value : List UInt8) : List UInt8 :=
  ((value.reverse.takeWhile (· != 0x2C)).dropWhile isBlank).reverse.dropWhile isBlank

/-- The last transfer coding is `chunked`. -/
def isChunked (fields : List Field) : Bool :=
  match (valuesOf (text "transfer-encoding") fields).getLast? with
  | some value => (lastElement value).map toLower == text "chunked"
  | none => false

/-- A response of a status that never has a body. -/
def StartLine.bodiless : StartLine → Bool
  | .status _ code _ => code / 100 == 1 || code == 204 || code == 304
  | .request _ _ _ => false

/-- How the end of the body is told by the start line and the header fields; `none` if they are in
error. -/
def framing (start : StartLine) (fields : List Field) : Option Framing :=
  if start.bodiless then some .empty
  else if isChunked fields then some .chunked
  else if !(valuesOf (text "transfer-encoding") fields).isEmpty then
    match start with
    | .request _ _ _ => none
    | .status _ _ _ => some .untilClose
  else
    match valuesOf (text "content-length") fields with
    | [] =>
        match start with
        | .request _ _ _ => some .empty
        | .status _ _ _ => some .untilClose
    | value :: others =>
        if !value.isEmpty && value.all isDigit && others.all (· == value) then
          some (.length (digitsValue value))
        else none

/-! ## Reading -/

/-- The end of a line. -/
def crlf : List UInt8 := [0x0D, 0x0A]

/-- The bytes up to the end of the first line, and those behind it. -/
def readLine : List UInt8 → Option (List UInt8 × List UInt8)
  | 0x0D :: 0x0A :: rest => some ([], rest)
  | c :: rest => (readLine rest).map fun (line, rest) => (c :: line, rest)
  | [] => none

/-- A version. -/
def readVersion (s : List UInt8) : Option Version :=
  if s = text "HTTP/1.0" then some .http10
  else if s = text "HTTP/1.1" then some .http11
  else none

/-- A start line. -/
def readStart (kind : Kind) (line : List UInt8) : Option StartLine := do
  let (first, rest) ← splitAtFirst 0x20 line
  let (second, third) ← splitAtFirst 0x20 rest
  match kind with
  | .request =>
      if first.isEmpty || second.isEmpty then none
      else (readVersion third).map fun version => .request first second version
  | .response =>
      if second.length = 3 ∧ second.all isDigit then
        (readVersion first).map fun version => .status version (digitsValue second) third
      else none

/-- A field. -/
def readField (line : List UInt8) : Option Field :=
  match splitAtFirst 0x3A line with
  | some (name, value) => if name.isEmpty then none else some ⟨name, value.dropWhile isBlank⟩
  | none => none

/-- The fields up to the empty line, and what is behind it, of as many lines at most. -/
def readFields : Nat → List UInt8 → Option (List Field × List UInt8)
  | 0, _ => none
  | lines + 1, s => do
      let (line, rest) ← readLine s
      if line.isEmpty then some ([], rest)
      else do
        let field ← readField line
        let (fields, rest) ← readFields lines rest
        some (field :: fields, rest)

/-- The start line and the header fields. -/
def readHead (kind : Kind) (s : List UInt8) : Option (StartLine × List Field × List UInt8) := do
  let (line, rest) ← readLine s
  let start ← readStart kind line
  let (fields, rest) ← readFields (rest.length + 1) rest
  some (start, fields, rest)

/-- The size of a chunk, of the line in front of it. -/
def readSize (line : List UInt8) : Option Nat :=
  let digits := line.takeWhile fun c => (hexDigit c).isSome
  if digits.isEmpty then none
  else match line.dropWhile fun c => (hexDigit c).isSome with
    | [] | 0x3B :: _ => some (hexValue digits)
    | _ => none

/-- The data of as many chunks at most. With it comes what is behind the line of the last chunk,
or `none` if the input ends before it, at the end of a chunk. -/
def readChunks : Nat → List UInt8 → Option (List UInt8 × Option (List UInt8))
  | _, [] => some ([], none)
  | 0, _ => none
  | chunks + 1, s => do
      let (line, rest) ← readLine s
      let size ← readSize line
      if size = 0 then some ([], some rest)
      else if (rest.drop size).take 2 = crlf then do
        let (data, behind) ← readChunks chunks (rest.drop (size + 2))
        some (rest.take size ++ data, behind)
      else none

/-- The chunks an input begins with. -/
def dechunk (s : List UInt8) : Option (List UInt8 × Option (List UInt8)) := readChunks s.length s

/-- The body, the trailer, whether the end is marked, and what is behind it. -/
def readBody (framing : Framing) (s : List UInt8) :
    Option (List UInt8 × List Field × Bool × List UInt8) :=
  match framing with
  | .empty => some ([], [], true, s)
  | .length n => if n ≤ s.length then some (s.take n, [], true, s.drop n) else none
  | .chunked => do
      let (data, behind) ← dechunk s
      let rest ← behind
      let (trailers, rest) ← readFields (rest.length + 1) rest
      some (data, trailers, true, rest)
  | .untilClose => some (s, [], false, [])

/-- A message, and what is behind it. -/
def readMessage (kind : Kind) (s : List UInt8) : Option (WireMessage × List UInt8) := do
  let (start, fields, rest) ← readHead kind s
  let framing ← framing start fields
  let (body, trailers, ended, rest) ← readBody framing rest
  some (⟨start, fields, body, trailers, ended⟩, rest)

/-- As many messages at most. -/
def readMessages (kind : Kind) : Nat → List UInt8 → Option (List WireMessage)
  | _, [] => some []
  | 0, _ => none
  | messages + 1, s => do
      let (m, rest) ← readMessage kind s
      let ms ← readMessages kind messages rest
      some (m :: ms)

/-- The messages an input consists of. -/
def readAll (kind : Kind) (s : List UInt8) : Option (List WireMessage) :=
  readMessages kind s.length s

/-! ## Printing -/

/-- A version. -/
def Version.bytes : Version → List UInt8
  | .http10 => text "HTTP/1.0"
  | .http11 => text "HTTP/1.1"

/-- A start line, without its end. -/
def StartLine.line : StartLine → List UInt8
  | .request method target version => method ++ text " " ++ target ++ text " " ++ version.bytes
  | .status version code reason => version.bytes ++ text " " ++ decimal code ++ text " " ++ reason

/-- A field, without its end. -/
def Field.line (f : Field) : List UInt8 := f.name ++ text ": " ++ f.value

/-- Fields, each on a line, and an empty line. -/
def fieldLines (fields : List Field) : List UInt8 :=
  (fields.flatMap fun f => f.line ++ crlf) ++ crlf

/-- The start line and the header fields. -/
def head (start : StartLine) (fields : List Field) : List UInt8 :=
  start.line ++ crlf ++ fieldLines fields

/-- A chunk. -/
def chunk (data : List UInt8) : List UInt8 := hexadecimal data.length ++ crlf ++ data ++ crlf

/-- The line of the last chunk. -/
def lastChunk : List UInt8 := text "0" ++ crlf

/-- A body, which is cut where `pieces` tells if it is sent in chunks. -/
def body (framing : Framing) (pieces : List (List UInt8)) (trailers : List Field) : List UInt8 :=
  match framing with
  | .empty | .length _ | .untilClose => pieces.flatten
  | .chunked => (pieces.flatMap chunk) ++ lastChunk ++ fieldLines trailers

/-! ## What can be printed -/

/-- What a line may hold. -/
def OneLine (s : List UInt8) : Prop := 0x0D ∉ s ∧ 0x0A ∉ s

instance : DecidablePred OneLine := fun s =>
  inferInstanceAs (Decidable (0x0D ∉ s ∧ 0x0A ∉ s))

/-- A field that can be printed: its value does not begin with space. -/
structure Field.Printable (f : Field) : Prop where
  name_ne_nil : f.name ≠ []
  name_line : OneLine f.name
  colon : 0x3A ∉ f.name
  value_line : OneLine f.value
  value_blank : f.value.dropWhile isBlank = f.value

instance (f : Field) : Decidable f.Printable :=
  decidable_of_iff (f.name ≠ [] ∧ OneLine f.name ∧ 0x3A ∉ f.name ∧ OneLine f.value ∧
      f.value.dropWhile isBlank = f.value)
    ⟨fun ⟨hname, hline, hcolon, hvalue, hblank⟩ => ⟨hname, hline, hcolon, hvalue, hblank⟩,
      fun ⟨hname, hline, hcolon, hvalue, hblank⟩ => ⟨hname, hline, hcolon, hvalue, hblank⟩⟩

/-- A start line that can be printed. -/
def StartLine.Printable : StartLine → Prop
  | .request method target _ =>
      method ≠ [] ∧ OneLine method ∧ 0x20 ∉ method ∧ target ≠ [] ∧ OneLine target ∧ 0x20 ∉ target
  | .status _ code reason => 100 ≤ code ∧ code < 1000 ∧ OneLine reason

instance (start : StartLine) : Decidable start.Printable :=
  match start with
  | .request method target _ =>
      inferInstanceAs (Decidable (method ≠ [] ∧ OneLine method ∧ 0x20 ∉ method ∧ target ≠ [] ∧
        OneLine target ∧ 0x20 ∉ target))
  | .status _ code reason => inferInstanceAs (Decidable (100 ≤ code ∧ code < 1000 ∧ OneLine reason))

/-- The body and the trailer are what the framing allows. -/
def WireMessage.Framed (m : WireMessage) : Framing → Prop
  | .empty => m.body = [] ∧ m.trailers = [] ∧ m.ended = true
  | .length n => m.body.length = n ∧ m.trailers = [] ∧ m.ended = true
  | .chunked => m.ended = true
  | .untilClose => m.trailers = [] ∧ m.ended = false

/-- A message that can be printed. -/
structure WireMessage.Printable (m : WireMessage) : Prop where
  start : m.start.Printable
  fields : ∀ f ∈ m.fields, f.Printable
  trailers : ∀ f ∈ m.trailers, f.Printable
  framed : ∃ f, framing m.start m.fields = some f ∧ m.Framed f

/-! ## Lines -/

@[simp] theorem read_line_crlf (rest : List UInt8) :
    readLine (0x0D :: 0x0A :: rest) = some ([], rest) := rfl

theorem readLine_cons {c : UInt8} (hc : c ≠ 0x0D) (s : List UInt8) :
    readLine (c :: s) = (readLine s).map fun (line, rest) => (c :: line, rest) := by
  rw [readLine]
  intro rest h
  exact absurd h hc

/-- A line is read up to its end. -/
theorem readLine_append {line : List UInt8} (h : 0x0D ∉ line) (rest : List UInt8) :
    readLine (line ++ crlf ++ rest) = some (line, rest) := by
  induction line with
  | nil => rfl
  | cons c line ih =>
      simp only [List.mem_cons, not_or] at h
      rw [List.cons_append, List.cons_append, readLine_cons (Ne.symm h.1), ih h.2]
      rfl

/-! ## The head -/

theorem readVersion_bytes (v : Version) : readVersion v.bytes = some v := by
  cases v <;> decide

theorem Version.bytes_line (v : Version) : OneLine v.bytes ∧ 0x20 ∉ v.bytes := by
  cases v <;> decide

theorem not_mem_decimal {n : Nat} {c : UInt8} (hc : isDigit c = false) : c ∉ decimal n := by
  intro h
  rw [isDigit_of_mem_decimal h] at hc
  cases hc

/-- A printed start line is a line. -/
theorem StartLine.line_one_line {start : StartLine} (h : start.Printable) : 0x0D ∉ start.line := by
  cases start with
  | request method target version =>
      obtain ⟨_, hmethod, _, _, htarget, _⟩ := h
      have hversion := version.bytes_line.1
      simp only [StartLine.line, List.mem_append, not_or]
      exact ⟨⟨⟨⟨hmethod.1, by decide⟩, htarget.1⟩, by decide⟩, hversion.1⟩
  | status version code reason =>
      have hversion := version.bytes_line.1
      simp only [StartLine.line, List.mem_append, not_or]
      exact ⟨⟨⟨⟨hversion.1, by decide⟩, not_mem_decimal (by decide)⟩, by decide⟩, h.2.2.1⟩

/-- A printed start line is read back. -/
theorem readStart_line {start : StartLine} (h : start.Printable) :
    readStart start.kind start.line = some start := by
  cases start with
  | request method target version =>
      obtain ⟨hmethod, _, hspace, htarget, _, hspace'⟩ := h
      have hsplit : splitAtFirst 0x20 (StartLine.line (.request method target version)) =
          some (method, target ++ 0x20 :: version.bytes) := by
        rw [← splitAtFirst_append hspace]
        simp [StartLine.line, text]
        rfl
      simp [readStart, StartLine.kind, hsplit, splitAtFirst_append hspace', readVersion_bytes,
        hmethod, htarget]
  | status version code reason =>
      obtain ⟨hlow, hhigh, _⟩ := h
      have hsplit : splitAtFirst 0x20 (StartLine.line (.status version code reason)) =
          some (version.bytes, decimal code ++ 0x20 :: reason) := by
        rw [← splitAtFirst_append version.bytes_line.2]
        simp [StartLine.line, text]
        rfl
      have hdigits : (decimal code).all isDigit = true :=
        List.all_eq_true.mpr fun c hc => isDigit_of_mem_decimal hc
      simp [readStart, StartLine.kind, hsplit, splitAtFirst_append (not_mem_decimal (n := code)
        (show isDigit 0x20 = false by decide)), readVersion_bytes, decimal_three hlow hhigh,
        digitsValue_decimal]
      simpa using hdigits

/-- A printed field is read back. -/
theorem readField_line {f : Field} (h : f.Printable) : readField f.line = some f := by
  have hline : f.line = f.name ++ 0x3A :: 0x20 :: f.value := by
    simp [Field.line, text]
    rfl
  rw [readField, hline, splitAtFirst_append h.colon]
  simp [h.name_ne_nil, isBlank, h.value_blank]

theorem Field.line_one_line {f : Field} (h : f.Printable) : 0x0D ∉ f.line := by
  simp only [Field.line, List.mem_append, not_or]
  exact ⟨⟨h.name_line.1, by decide⟩, h.value_line.1⟩

theorem Field.line_ne_nil {f : Field} (h : f.Printable) : f.line ≠ [] := by
  simp [Field.line, h.name_ne_nil]

/-- Printed fields are read back, whatever follows. -/
theorem readFields_lines {fields : List Field} (h : ∀ f ∈ fields, f.Printable) {lines : Nat}
    (hlines : fields.length < lines) (rest : List UInt8) :
    readFields lines (fieldLines fields ++ rest) = some (fields, rest) := by
  induction fields generalizing lines with
  | nil =>
      obtain ⟨lines, rfl⟩ := Nat.exists_eq_add_of_lt hlines
      rfl
  | cons f fields ih =>
      cases lines with
      | zero => cases hlines
      | succ lines =>
          have hf := h f List.mem_cons_self
          have hrest := ih (fun g hg => h g (List.mem_cons_of_mem f hg))
            (Nat.lt_of_succ_lt_succ hlines)
          have hsplit : fieldLines (f :: fields) ++ rest =
              f.line ++ crlf ++ (fieldLines fields ++ rest) := by
            simp [fieldLines]
          rw [hsplit, readFields, readLine_append (Field.line_one_line hf)]
          simp [Field.line_ne_nil hf, readField_line hf, hrest]

/-- There are at least as many bytes as fields. -/
theorem length_fieldLines (fields : List Field) : fields.length < (fieldLines fields).length := by
  have hlines : fields.length ≤ (fields.flatMap fun f => f.line ++ crlf).length := by
    induction fields with
    | nil => exact Nat.zero_le _
    | cons f fields ih =>
        rw [List.flatMap_cons, List.length_append, List.length_append, List.length_cons]
        have hcrlf : crlf.length = 2 := rfl
        omega
  rw [fieldLines, List.length_append]
  have hcrlf : crlf.length = 2 := rfl
  omega

/-- A printed head is read back, whatever follows. -/
theorem readHead_head {start : StartLine} {fields : List Field} (hstart : start.Printable)
    (hfields : ∀ f ∈ fields, f.Printable) (rest : List UInt8) :
    readHead start.kind (head start fields ++ rest) = some (start, fields, rest) := by
  have hlines : fields.length < (fieldLines fields ++ rest).length + 1 := by
    have := length_fieldLines fields
    rw [List.length_append]
    omega
  rw [readHead, head, List.append_assoc (start.line ++ crlf),
    readLine_append (StartLine.line_one_line hstart)]
  simp only [bind, Option.bind, readStart_line hstart, readFields_lines hfields hlines]

/-! ## The body -/

theorem hexDigit_cr : (hexDigit 0x0D).isSome = false := by decide

/-- A printed size is read back. -/
theorem readSize_hexadecimal (n : Nat) : readSize (hexadecimal n) = some n := by
  have hdigits : ∀ c ∈ hexadecimal n, (hexDigit c).isSome = true :=
    fun c hc => hexDigit_of_mem_hexadecimal hc
  have htake : (hexadecimal n).takeWhile (fun c => (hexDigit c).isSome) = hexadecimal n :=
    List.takeWhile_eq_self_iff.mpr hdigits
  have hdrop : (hexadecimal n).dropWhile (fun c => (hexDigit c).isSome) = [] :=
    List.dropWhile_eq_nil_iff.mpr hdigits
  simp only [readSize]
  rw [htake, hdrop]
  simp [hexadecimal_ne_nil, hexValue_hexadecimal]

theorem hexadecimal_one_line (n : Nat) : 0x0D ∉ hexadecimal n := by
  intro h
  have hdigit := hexDigit_of_mem_hexadecimal h
  rw [hexDigit_cr] at hdigit
  cases hdigit

/-- Data behind a line with its size is read, and then what follows it. -/
theorem readChunks_line {line data : List UInt8} (hline : 0x0D ∉ line)
    (hsize : readSize line = some data.length) (hdata : data ≠ []) (chunks : Nat)
    (rest : List UInt8) :
    readChunks (chunks + 1) (line ++ crlf ++ data ++ crlf ++ rest) =
      (readChunks chunks rest).map fun (more, behind) => (data ++ more, behind) := by
  have hlength : data.length ≠ 0 := by simpa using hdata
  have hsplit :
      line ++ crlf ++ data ++ crlf ++ rest = line ++ crlf ++ (data ++ (crlf ++ rest)) := by
    simp
  have hdrop : (data ++ (crlf ++ rest)).drop (data.length + 2) = rest := by
    rw [← List.drop_drop, List.drop_left]
    rfl
  cases hs : line ++ crlf ++ data ++ crlf ++ rest with
  | nil => exact absurd hs (by simp [hdata])
  | cons c s =>
      rw [readChunks, ← hs, hsplit, readLine_append hline]
      · simp only [bind, Option.bind, hsize, hlength, if_false, List.drop_left, hdrop]
        rw [if_pos (by rfl), List.take_left]
        cases readChunks chunks rest <;> rfl
      · exact nofun

/-- A chunk is read, and then what follows it. -/
theorem readChunks_chunk {data : List UInt8} (hdata : data ≠ []) (chunks : Nat)
    (rest : List UInt8) :
    readChunks (chunks + 1) (chunk data ++ rest) =
      (readChunks chunks rest).map fun (more, behind) => (data ++ more, behind) :=
  readChunks_line (hexadecimal_one_line _) (readSize_hexadecimal _) hdata chunks rest

/-- Chunks are read back as their data, wherever it was cut. -/
theorem readChunks_chunks {pieces : List (List UInt8)} (h : ∀ p ∈ pieces, p ≠ []) {chunks : Nat}
    (hchunks : pieces.length ≤ chunks) (rest : List UInt8) :
    readChunks chunks (pieces.flatMap chunk ++ rest) =
      (readChunks (chunks - pieces.length) rest).map
        fun (more, behind) => (pieces.flatten ++ more, behind) := by
  induction pieces generalizing chunks with
  | nil => simp
  | cons p pieces ih =>
      cases chunks with
      | zero => cases hchunks
      | succ chunks =>
          rw [List.flatMap_cons, List.append_assoc, readChunks_chunk (h p List.mem_cons_self),
            ih (fun q hq => h q (List.mem_cons_of_mem p hq)) (Nat.le_of_succ_le_succ hchunks)]
          simp [Nat.succ_sub_succ, Function.comp_def]

/-- There are at least as many bytes as chunks. -/
theorem length_chunks (pieces : List (List UInt8)) :
    pieces.length ≤ (pieces.flatMap chunk).length := by
  induction pieces with
  | nil => exact Nat.zero_le _
  | cons p pieces ih =>
      rw [List.flatMap_cons, List.length_append, List.length_cons]
      have hchunk : 0 < (chunk p).length := by simp [chunk, crlf]
      omega

/-- Chunks that are not followed by the last chunk. -/
theorem dechunk_open {pieces : List (List UInt8)} (h : ∀ p ∈ pieces, p ≠ []) :
    dechunk (pieces.flatMap chunk) = some (pieces.flatten, none) := by
  have hread := readChunks_chunks h (length_chunks pieces) []
  rw [List.append_nil] at hread
  rw [dechunk, hread]
  cases (pieces.flatMap chunk).length - pieces.length <;> simp [readChunks]

/-- Chunks and the last chunk. -/
theorem dechunk_closed {pieces : List (List UInt8)} (h : ∀ p ∈ pieces, p ≠ [])
    (rest : List UInt8) :
    dechunk (pieces.flatMap chunk ++ (lastChunk ++ rest)) = some (pieces.flatten, some rest) := by
  have hlength := length_chunks pieces
  have hlast : readChunks ((pieces.flatMap chunk ++ (lastChunk ++ rest)).length - pieces.length)
      (lastChunk ++ rest) = some ([], some rest) := by
    have hpos : ∃ k, (pieces.flatMap chunk ++ (lastChunk ++ rest)).length - pieces.length =
        k + 1 := by
      refine ⟨(pieces.flatMap chunk).length - pieces.length + (2 + rest.length), ?_⟩
      rw [List.length_append, List.length_append]
      have : lastChunk.length = 3 := rfl
      omega
    obtain ⟨k, hk⟩ := hpos
    rw [hk]
    rfl
  rw [dechunk, readChunks_chunks h (by rw [List.length_append]; omega), hlast]
  simp

/-- A body in chunks without a trailer, by their data: behind the line of a size stands as much
data, and the one size that is zero is the last. -/
inductive ChunkedBody : List (List UInt8) → List UInt8 → Prop where
  | last {line : List UInt8} (hline : 0x0D ∉ line) (hsize : readSize line = some 0) :
      ChunkedBody [] (line ++ crlf ++ crlf)
  | chunk {line data rest : List UInt8} {pieces : List (List UInt8)} (hline : 0x0D ∉ line)
      (hsize : readSize line = some data.length) (hdata : data ≠ [])
      (hrest : ChunkedBody pieces rest) :
      ChunkedBody (data :: pieces) (line ++ crlf ++ data ++ crlf ++ rest)

/-- Such a body is read as its data, to the end of the line of the last chunk. -/
theorem ChunkedBody.read_chunks {pieces : List (List UInt8)} {s : List UInt8}
    (h : ChunkedBody pieces s) {chunks : Nat} (hchunks : pieces.length < chunks) :
    readChunks chunks s = some (pieces.flatten, some crlf) := by
  induction h generalizing chunks with
  | @last line hline hsize =>
      obtain ⟨chunks, rfl⟩ : ∃ k, chunks = k + 1 := ⟨chunks - 1, by omega⟩
      cases hs : line ++ crlf ++ crlf with
      | nil => exact absurd hs (by simp [crlf])
      | cons c s =>
          rw [readChunks, ← hs, readLine_append hline]
          · simp [hsize]
          · exact nofun
  | chunk hline hsize hdata hrest ih =>
      obtain ⟨chunks, rfl⟩ : ∃ k, chunks = k + 1 := ⟨chunks - 1, by omega⟩
      rw [readChunks_line hline hsize hdata, ih (by simpa using hchunks)]
      rfl

theorem ChunkedBody.length_lt {pieces : List (List UInt8)} {s : List UInt8}
    (h : ChunkedBody pieces s) : pieces.length < s.length := by
  induction h with
  | last => simp [crlf]
  | chunk hline hsize hdata hrest ih =>
      simp only [List.length_append, List.length_cons]
      have : crlf.length = 2 := rfl
      omega

/-- Such a body is a whole one, and its data is that of its chunks. -/
theorem ChunkedBody.read_body {pieces : List (List UInt8)} {s : List UInt8}
    (h : ChunkedBody pieces s) : readBody .chunked s = some (pieces.flatten, [], true, []) := by
  have hdata : dechunk s = some (pieces.flatten, some crlf) := h.read_chunks h.length_lt
  have hfields : readFields (crlf.length + 1) crlf = some ([], []) := rfl
  simp only [readBody, hdata, bind, Option.bind, hfields]

/-- Chunks that are printed, the last chunk and an empty line are such a body. -/
theorem chunked_body_chunks {pieces : List (List UInt8)} (h : ∀ p ∈ pieces, p ≠ []) :
    ChunkedBody pieces (pieces.flatMap chunk ++ (lastChunk ++ crlf)) := by
  induction pieces with
  | nil => exact @ChunkedBody.last (text "0") (by decide) (by rfl)
  | cons p pieces ih =>
      rw [List.flatMap_cons, List.append_assoc]
      exact .chunk (hexadecimal_one_line _) (readSize_hexadecimal _) (h p List.mem_cons_self)
        (ih fun q hq => h q (List.mem_cons_of_mem p hq))

/-- A printed body is read back, whatever follows it if its end is marked. -/
theorem readBody_body {m : WireMessage} {f : Framing} (hframed : m.Framed f)
    (htrailers : ∀ g ∈ m.trailers, g.Printable) {pieces : List (List UInt8)}
    (hpieces : ∀ p ∈ pieces, p ≠ []) (hbody : pieces.flatten = m.body) {rest : List UInt8}
    (hrest : m.ended = false → rest = []) :
    readBody f (body f pieces m.trailers ++ rest) = some (m.body, m.trailers, m.ended, rest) := by
  cases f with
  | empty =>
      obtain ⟨hempty, hnone, hended⟩ := hframed
      simp [readBody, body, hbody, hempty, hnone, hended]
  | length n =>
      obtain ⟨rfl, hnone, hended⟩ := hframed
      simp [readBody, body, hbody, hnone, hended]
  | chunked =>
      have hended : m.ended = true := hframed
      have hlines : m.trailers.length < (fieldLines m.trailers ++ rest).length + 1 := by
        have := length_fieldLines m.trailers
        rw [List.length_append]
        omega
      have hsplit : body .chunked pieces m.trailers ++ rest =
          pieces.flatMap chunk ++ (lastChunk ++ (fieldLines m.trailers ++ rest)) := by
        simp [body]
      rw [hsplit]
      simp only [readBody, bind, Option.bind, dechunk_closed hpieces,
        readFields_lines htrailers hlines, hbody, hended]
  | untilClose =>
      obtain ⟨hnone, hended⟩ := hframed
      simp [readBody, body, hbody, hnone, hended, hrest hended]

/-- A printed message is read back. -/
theorem readMessage_printed {m : WireMessage} (h : m.Printable) {f : Framing}
    (hf : framing m.start m.fields = some f) {pieces : List (List UInt8)}
    (hpieces : ∀ p ∈ pieces, p ≠ []) (hbody : pieces.flatten = m.body) {rest : List UInt8}
    (hrest : m.ended = false → rest = []) :
    readMessage m.start.kind (head m.start m.fields ++ (body f pieces m.trailers ++ rest)) =
      some (m, rest) := by
  obtain ⟨g, hg, hframed⟩ := h.framed
  rw [hf] at hg
  cases hg
  simp [readMessage, readHead_head h.start h.fields, hf,
    readBody_body hframed h.trailers hpieces hbody hrest]

/-! ## What is read -/

/-- What was read as a line is in front of its end. -/
theorem readLine_eq {s line rest : List UInt8} (h : readLine s = some (line, rest)) :
    s = line ++ crlf ++ rest := by
  induction s generalizing line rest with
  | nil => cases h
  | cons c s ih =>
      rw [readLine.eq_def] at h
      split at h
      · next heq =>
          cases heq
          cases h
          rfl
      · next heq =>
          cases heq
          obtain ⟨⟨line', rest'⟩, hread, hcons⟩ := Option.map_eq_some_iff.mp h
          cases hcons
          rw [ih hread]
          rfl
      · next heq => cases heq

/-- A status line begins with the name of the protocol. -/
theorem readStart_first {line : List UInt8} {start : StartLine}
    (h : readStart .response line = some start) : ∃ rest, line = 0x48 :: rest := by
  unfold readStart at h
  obtain ⟨⟨first, behind⟩, hsplit, h⟩ := Option.bind_eq_some_iff.mp h
  obtain ⟨⟨second, third⟩, _, h⟩ := Option.bind_eq_some_iff.mp h
  dsimp only at h
  split at h
  · obtain ⟨version, hversion, _⟩ := Option.map_eq_some_iff.mp h
    have hfirst : ∃ rest, first = 0x48 :: rest := by
      unfold readVersion at hversion
      split at hversion
      · next heq => exact ⟨text "TTP/1.0", heq⟩
      · split at hversion
        · next heq => exact ⟨text "TTP/1.1", heq⟩
        · cases hversion
    obtain ⟨rest, rfl⟩ := hfirst
    exact ⟨_, (splitAtFirst_eq_some hsplit).1⟩
  · cases h

theorem readHead_first {s rest : List UInt8} {start : StartLine} {fields : List Field}
    (h : readHead .response s = some (start, fields, rest)) : ∃ t, s = 0x48 :: t := by
  unfold readHead at h
  obtain ⟨⟨line, behind⟩, hline, h⟩ := Option.bind_eq_some_iff.mp h
  obtain ⟨start', hstart, _⟩ := Option.bind_eq_some_iff.mp h
  obtain ⟨t, rfl⟩ := readStart_first hstart
  exact ⟨_, readLine_eq hline⟩

theorem readMessage_first {s rest : List UInt8} {m : WireMessage}
    (h : readMessage .response s = some (m, rest)) : ∃ t, s = 0x48 :: t := by
  obtain ⟨⟨start, fields, behind⟩, hhead, _⟩ := Option.bind_eq_some_iff.mp h
  exact readHead_first hhead

/-- A request line begins with the method. -/
theorem readStart_method {line : List UInt8} {start : StartLine}
    (h : readStart .request line = some start) : ∃ method target version rest,
      start = .request method target version ∧ method ≠ [] ∧ line = method ++ 0x20 :: rest := by
  unfold readStart at h
  obtain ⟨⟨first, behind⟩, hsplit, h⟩ := Option.bind_eq_some_iff.mp h
  obtain ⟨⟨second, third⟩, _, h⟩ := Option.bind_eq_some_iff.mp h
  dsimp only at h
  split at h
  · cases h
  · next hfilled =>
      obtain ⟨version, _, rfl⟩ := Option.map_eq_some_iff.mp h
      refine ⟨first, second, version, behind, rfl, ?_, (splitAtFirst_eq_some hsplit).1⟩
      rintro rfl
      exact hfilled rfl

/-- No request ends with the connection. -/
theorem framing_request (method target : List UInt8) (version : Version) (fields : List Field) :
    framing (.request method target version) fields ≠ some .untilClose := by
  unfold framing
  split
  · nofun
  · split
    · nofun
    · split
      · nofun
      · split
        · nofun
        · split <;> nofun

/-- The end of any other body is marked. -/
theorem readBody_ended {f : Framing} (hf : f ≠ .untilClose) {s behind body : List UInt8}
    {trailers : List Field} {ended : Bool}
    (h : readBody f s = some (body, trailers, ended, behind)) : ended = true := by
  cases f with
  | empty => cases h; rfl
  | length n =>
      simp only [readBody] at h
      split at h <;> cases h
      rfl
  | chunked =>
      obtain ⟨⟨data, after⟩, _, h⟩ := Option.bind_eq_some_iff.mp h
      obtain ⟨rest, _, h⟩ := Option.bind_eq_some_iff.mp h
      obtain ⟨⟨fields, last⟩, _, h⟩ := Option.bind_eq_some_iff.mp h
      cases h
      rfl
  | untilClose => exact absurd rfl hf

/-- A request begins with its method, and its end is marked. -/
theorem readMessage_request {s rest : List UInt8} {m : WireMessage}
    (h : readMessage .request s = some (m, rest)) : m.ended = true ∧
      ∃ method target version behind,
        m.start = .request method target version ∧ method ≠ [] ∧ s = method ++ behind := by
  obtain ⟨⟨start, fields, after⟩, hhead, h⟩ := Option.bind_eq_some_iff.mp h
  obtain ⟨f, hframing, h⟩ := Option.bind_eq_some_iff.mp h
  obtain ⟨⟨body, trailers, ended, last⟩, hbody, h⟩ := Option.bind_eq_some_iff.mp h
  cases h
  obtain ⟨⟨line, below⟩, hline, hhead⟩ := Option.bind_eq_some_iff.mp hhead
  obtain ⟨start', hstart, hhead⟩ := Option.bind_eq_some_iff.mp hhead
  obtain ⟨fields', _, hhead⟩ := Option.bind_eq_some_iff.mp hhead
  cases hhead
  obtain ⟨method, target, version, tail, rfl, hmethod, rfl⟩ := readStart_method hstart
  have hmarked : f ≠ .untilClose := by
    rintro rfl
    exact framing_request method target version _ hframing
  refine ⟨readBody_ended hmarked hbody, method, target, version, 0x20 :: tail ++ crlf ++ below, rfl,
    hmethod, ?_⟩
  rw [readLine_eq hline]
  simp

theorem readMessages_cons {kind : Kind} {s rest : List UInt8} {m : WireMessage} (hs : s ≠ [])
    (h : readMessage kind s = some (m, rest)) (messages : Nat) :
    readMessages kind (messages + 1) s = (readMessages kind messages rest).map (m :: ·) := by
  rw [readMessages, h]
  · cases hrest : readMessages kind messages rest <;> simp [hrest]
  · exact hs

end HttpWire

end RtcVpn
