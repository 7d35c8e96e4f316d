/-
  Samara.Live.Lines

  The line decoder of standard input (`StdinLineDecoder`) and the loop that
  feeds it (`drive_stdin_reader`).  However the input is cut into chunks, the
  events are those of the whole input, cut after the first that is terminal.
-/
import Mathlib.Data.List.Basic

namespace Samara.Live

/-! ## The decoder -/

inductive StdinErrorKind where
  | read
  | invalidUtf8
  deriving DecidableEq, Repr

structure StdinError where
  kind : StdinErrorKind
  message : String
  deriving DecidableEq, Repr

inductive StdinReaderEvent where
  | line (line : String)
  | failed (error : StdinError)
  | ended
  | cancelled
  deriving DecidableEq, Repr

/-- `Failed` or `Ended`. -/
def StdinReaderEvent.isTerminal : StdinReaderEvent → Bool
  | .failed _ | .ended => true
  | _ => false

/-- `b'\n'`. -/
def lf : UInt8 := 10

/-- `b'\r'`. -/
def cr : UInt8 := 13

section Decoder

-- What `FromUtf8Error` displays for bytes that are not UTF-8.
variable (display : List UInt8 → String)

/-- `String::from_utf8`, with the error that the decoder makes of a refusal. -/
def fromUtf8 (bytes : List UInt8) : Except StdinError String :=
  match String.fromUTF8? ⟨bytes.toArray⟩ with
  | some text => .ok text
  | none => .error ⟨.invalidUtf8, display bytes⟩

/-- The index of the last byte that satisfies `p`. -/
def rposition (p : UInt8 → Bool) : List UInt8 → Option Nat
  | [] => none
  | byte :: bytes =>
      match rposition p bytes with
      | some index => some (index + 1)
      | none => if p byte then some 0 else none

/-- `split_inclusive`: pieces that end with a byte that satisfies `p`, and what
    is left. -/
def splitInclusive (p : UInt8 → Bool) : List UInt8 → List (List UInt8)
  | [] => []
  | byte :: bytes =>
      if p byte then [byte] :: splitInclusive p bytes
      else
        match splitInclusive p bytes with
        | [] => [[byte]]
        | piece :: pieces => (byte :: piece) :: pieces

/-- `strip_suffix(b"\r")`, or the line itself. -/
def stripCr (line : List UInt8) : List UInt8 :=
  if line.getLast? = some cr then line.dropLast else line

structure StdinLineDecoder where
  pending : List UInt8

namespace StdinLineDecoder

/-- The loop of `push` over complete lines: the events, and whether a line
    failed and the loop broke off. -/
def pushLines : List (List UInt8) → List StdinReaderEvent × Bool
  | [] => ([], false)
  | encoded :: rest =>
      match fromUtf8 display (stripCr encoded.dropLast) with
      | .ok line =>
          let (events, broke) := pushLines rest
          (.line line :: events, broke)
      | .error error => ([.failed error], true)

/-- `StdinLineDecoder::push`. -/
def push (decoder : StdinLineDecoder) (bytes : List UInt8) :
    List StdinReaderEvent × StdinLineDecoder :=
  let previouslyBuffered := decoder.pending.length
  let pending := decoder.pending ++ bytes
  match rposition (· = lf) (pending.drop previouslyBuffered) with
  | none => ([], ⟨pending⟩)
  | some index =>
      let lastNewline := previouslyBuffered + index
      let complete := pending.take (lastNewline + 1)
      let (events, broke) := pushLines display (splitInclusive (· = lf) complete)
      (events, ⟨if broke then [] else pending.drop (lastNewline + 1)⟩)

/-- `StdinLineDecoder::finish`. -/
def finish (decoder : StdinLineDecoder) : List StdinReaderEvent :=
  if decoder.pending = [] then [.ended]
  else
    match fromUtf8 display decoder.pending with
    | .ok line => [.line line, .ended]
    | .error error => [.failed error]

end StdinLineDecoder

/-! ## The reader -/

/-- `send_stdin_events`, to a receiver that still listens: what was sent, and
    whether the reader goes on. -/
def sendStdinEvents : List StdinReaderEvent → List StdinReaderEvent × Bool
  | [] => ([], true)
  | event :: events =>
      if event.isTerminal then ([event], false)
      else
        let (sent, goes) := sendStdinEvents events
        (event :: sent, goes)

/-- What one turn of the loop finds: `wait_for_stdin`, and then `read`. -/
inductive StdinRead where
  | cancelled
  | inputFailed (error : StdinError)
  | mechanismFailed (reason : String)
  /-- `EINTR` or `EAGAIN`. -/
  | interrupted
  | readFailed (error : StdinError)
  | eof
  | input (bytes : List UInt8) (h : bytes ≠ [])

/-- `drive_stdin_reader`: the events it sends, and its result, or none as long
    as it has not returned. -/
def driveStdinReader (decoder : StdinLineDecoder) :
    List StdinRead → List StdinReaderEvent × Option (Except String Unit)
  | [] => ([], none)
  | .cancelled :: _ => ([.cancelled], some (.ok ()))
  | .inputFailed error :: _ => ([.failed error], some (.ok ()))
  | .mechanismFailed reason :: _ => ([], some (.error reason))
  | .interrupted :: reads => driveStdinReader decoder reads
  | .readFailed error :: _ => ([.failed error], some (.ok ()))
  | .eof :: _ => ((sendStdinEvents (decoder.finish display)).1, some (.ok ()))
  | .input bytes _ :: reads =>
      let (events, decoder) := decoder.push display bytes
      let (sent, goes) := sendStdinEvents events
      if goes then
        let (more, result) := driveStdinReader decoder reads
        (sent ++ more, result)
      else (sent, some (.ok ()))

/-! ## What the events should be -/

/-- The events up to the first that is terminal. -/
def throughTerminal : List StdinReaderEvent → List StdinReaderEvent
  | [] => []
  | event :: events => if event.isTerminal then [event] else event :: throughTerminal events

/-- A line, or the failure that it is not UTF-8. -/
def decodeLine (line : List UInt8) : StdinReaderEvent :=
  match fromUtf8 display line with
  | .ok text => .line text
  | .error error => .failed error

/-- The events of a whole input: a line for each line feed, without the line
    feed and one carriage return before it; the remainder as it is, unless it
    is empty; and the end. -/
def lineEvents (input : List UInt8) : List StdinReaderEvent :=
  let pieces := input.splitOn lf
  let remainder := pieces.getLastD []
  throughTerminal (pieces.dropLast.map (fun line => decodeLine display (stripCr line)) ++
    (if remainder = [] then [] else [decodeLine display remainder]) ++ [.ended])

end Decoder

/-! ## Pieces -/

theorem rposition_eq_none {p : UInt8 → Bool} {bytes : List UInt8} (h : rposition p bytes = none) :
    ∀ byte ∈ bytes, p byte = false := by
  induction bytes with
  | nil => exact fun _ hmem => absurd hmem List.not_mem_nil
  | cons byte bytes ih =>
      unfold rposition at h
      cases hrest : rposition p bytes with
      | some index =>
          rw [hrest] at h
          cases h
      | none =>
          rw [hrest] at h
          have hbyte : p byte = false := by simpa using h
          intro other hother
          rcases List.mem_cons.mp hother with rfl | hmem
          · exact hbyte
          · exact ih hrest other hmem

/-- The last newline parts the bytes into what is complete and what is not. -/
theorem rposition_eq_some {p : UInt8 → Bool} {bytes : List UInt8} {index : Nat}
    (h : rposition p bytes = some index) : ∃ before byte after,
      bytes = before ++ byte :: after ∧ before.length = index ∧ p byte = true ∧
        ∀ other ∈ after, p other = false := by
  induction bytes generalizing index with
  | nil => cases h
  | cons byte bytes ih =>
      unfold rposition at h
      cases hrest : rposition p bytes with
      | some found =>
          rw [hrest] at h
          cases h
          obtain ⟨before, last, after, rfl, hlength, hlast, hafter⟩ := ih hrest
          exact ⟨byte :: before, last, after, rfl, congrArg (· + 1) hlength, hlast, hafter⟩
      | none =>
          rw [hrest] at h
          by_cases hbyte : p byte = true
          · dsimp only at h
            rw [if_pos hbyte] at h
            cases h
            exact ⟨[], byte, bytes, rfl, rfl, hbyte, rposition_eq_none hrest⟩
          · dsimp only at h
            rw [if_neg hbyte] at h
            cases h

/-- Bytes that end with a newline are lines, each with its newline. -/
theorem splitInclusive_lines (bytes : List UInt8) : ∃ lines : List (List UInt8),
    bytes ++ [lf] = lines.flatMap (· ++ [lf]) ∧
      splitInclusive (· = lf) (bytes ++ [lf]) = lines.map (· ++ [lf]) ∧ lines ≠ [] ∧
        ∀ line ∈ lines, lf ∉ line := by
  induction bytes with
  | nil => exact ⟨[[]], rfl, rfl, by simp, by simp⟩
  | cons byte bytes ih =>
      obtain ⟨lines, hbytes, hsplit, hne, hclean⟩ := ih
      by_cases hbyte : byte = lf
      · refine ⟨[] :: lines, ?_, ?_, by simp, ?_⟩
        · rw [List.cons_append, hbytes, hbyte]
          rfl
        · rw [List.cons_append, splitInclusive, if_pos (decide_eq_true hbyte), hsplit, hbyte]
          rfl
        · intro line hline
          rcases List.mem_cons.mp hline with rfl | hmem
          · exact List.not_mem_nil
          · exact hclean line hmem
      · obtain ⟨first, rest, rfl⟩ := List.exists_cons_of_ne_nil hne
        refine ⟨(byte :: first) :: rest, ?_, ?_, by simp, ?_⟩
        · rw [List.cons_append, hbytes]
          rfl
        · rw [List.cons_append, splitInclusive, if_neg (by simpa using hbyte), hsplit]
          rfl
        · intro line hline
          rcases List.mem_cons.mp hline with rfl | hmem
          · have hfirst := hclean first List.mem_cons_self
            intro hlf
            rcases List.mem_cons.mp hlf with heq | hold
            · exact hbyte heq.symm
            · exact hfirst hold
          · exact hclean line (List.mem_cons_of_mem _ hmem)

/-! ## Lines one after another -/

section Events

variable {display : List UInt8 → String}

/-- A first line comes before the events of the rest, unless it is the last. -/
theorem lineEvents_line {line : List UInt8} (hclean : lf ∉ line) (rest : List UInt8) :
    lineEvents display (line ++ lf :: rest) =
      if (decodeLine display (stripCr line)).isTerminal then [decodeLine display (stripCr line)]
      else decodeLine display (stripCr line) :: lineEvents display rest := by
  have hsplit : (line ++ lf :: rest).splitOn lf = line :: rest.splitOn lf :=
    List.splitOn_append_cons_self_of_not_mem hclean rest
  have hne : rest.splitOn lf ≠ [] := List.splitOn_ne_nil lf rest
  unfold lineEvents
  rw [hsplit]
  dsimp only
  rw [List.dropLast_cons_of_ne_nil hne, List.map_cons, List.cons_append, List.cons_append,
    throughTerminal]
  have hlast : (line :: rest.splitOn lf).getLastD [] = (rest.splitOn lf).getLastD [] := by
    obtain ⟨piece, pieces, hpieces⟩ := List.exists_cons_of_ne_nil hne
    rw [hpieces]
    rfl
  rw [hlast]

/-- Without a newline there is only the remainder. -/
theorem lineEvents_remainder {input : List UInt8} (hclean : lf ∉ input) :
    lineEvents display input = (sendStdinEvents (StdinLineDecoder.finish display ⟨input⟩)).1 := by
  have hsplit : input.splitOn lf = [input] := List.splitOn_eq_singleton hclean
  unfold lineEvents StdinLineDecoder.finish
  rw [hsplit]
  by_cases hempty : input = []
  · simp [hempty, throughTerminal, sendStdinEvents, StdinReaderEvent.isTerminal]
  · cases hdecode : fromUtf8 display input with
    | ok text =>
        simp [hempty, hdecode, decodeLine, throughTerminal, sendStdinEvents,
          StdinReaderEvent.isTerminal]
    | error error =>
        simp [hempty, hdecode, decodeLine, throughTerminal, sendStdinEvents,
          StdinReaderEvent.isTerminal]

/-- The loop over complete lines makes the events of these lines, and breaks
    off exactly where a terminal event ends them. -/
theorem lineEvents_pushLines (lines : List (List UInt8)) (hclean : ∀ line ∈ lines, lf ∉ line)
    (rest : List UInt8) :
    lineEvents display (lines.flatMap (· ++ [lf]) ++ rest) =
      (sendStdinEvents (StdinLineDecoder.pushLines display (lines.map (· ++ [lf]))).1).1 ++
        (if (StdinLineDecoder.pushLines display (lines.map (· ++ [lf]))).2 then []
          else lineEvents display rest) ∧
    (sendStdinEvents (StdinLineDecoder.pushLines display (lines.map (· ++ [lf]))).1).2 =
      !(StdinLineDecoder.pushLines display (lines.map (· ++ [lf]))).2 := by
  induction lines with
  | nil => exact ⟨rfl, rfl⟩
  | cons line lines ih =>
      obtain ⟨hevents, hgoes⟩ := ih fun other hother => hclean other (List.mem_cons_of_mem _ hother)
      have hinput : (line :: lines).flatMap (· ++ [lf]) ++ rest =
          line ++ lf :: (lines.flatMap (· ++ [lf]) ++ rest) := by
        simp
      have hdrop : (line ++ [lf]).dropLast = line := List.dropLast_concat
      rw [hinput, lineEvents_line (hclean line List.mem_cons_self), List.map_cons]
      unfold StdinLineDecoder.pushLines
      rw [hdrop]
      cases hdecode : fromUtf8 display (stripCr line) with
      | ok text =>
          have hline : decodeLine display (stripCr line) = .line text := by
            unfold decodeLine
            rw [hdecode]
          rw [hline]
          refine ⟨?_, hgoes⟩
          show .line text :: lineEvents display _ = _
          rw [hevents]
          rfl
      | error error =>
          have hline : decodeLine display (stripCr line) = .failed error := by
            unfold decodeLine
            rw [hdecode]
          rw [hline]
          exact ⟨rfl, rfl⟩

/-! ## Chunks -/

namespace StdinLineDecoder

/-- What `push` makes of bytes without a newline. -/
theorem push_none {decoder : StdinLineDecoder} {bytes : List UInt8}
    (h : rposition (· = lf) bytes = none) :
    decoder.push display bytes = ([], ⟨decoder.pending ++ bytes⟩) := by
  unfold push
  dsimp only
  rw [List.drop_left, h]

/-- What `push` makes of bytes up to a last newline, and bytes after it. -/
theorem push_newline {decoder : StdinLineDecoder} {before after : List UInt8}
    (h : rposition (· = lf) (before ++ lf :: after) = some before.length) :
    decoder.push display (before ++ lf :: after) =
      ((pushLines display (splitInclusive (· = lf) (decoder.pending ++ before ++ [lf]))).1,
        ⟨if (pushLines display (splitInclusive (· = lf) (decoder.pending ++ before ++ [lf]))).2
          then [] else after⟩) := by
  have hwhole : decoder.pending ++ (before ++ lf :: after) =
      (decoder.pending ++ before ++ [lf]) ++ after := by
    simp
  have hlength : decoder.pending.length + before.length + 1 =
      (decoder.pending ++ before ++ [lf]).length := by
    simp [Nat.add_assoc]
  unfold push
  dsimp only
  rw [List.drop_left, h]
  dsimp only
  rw [hwhole, hlength, List.take_left, List.drop_left]

/-- The bytes of a push: none completes a line, or one is the last that does. -/
theorem push_cases (bytes : List UInt8) :
    (rposition (· = lf) bytes = none ∧ lf ∉ bytes) ∨
      ∃ before after, bytes = before ++ lf :: after ∧ lf ∉ after ∧
        rposition (· = lf) bytes = some before.length := by
  have hclean {bytes : List UInt8} (h : ∀ byte ∈ bytes, decide (byte = lf) = false) :
      lf ∉ bytes := fun hmem => of_decide_eq_false (h lf hmem) rfl
  cases hlast : rposition (· = lf) bytes with
  | none => exact .inl ⟨rfl, hclean (rposition_eq_none hlast)⟩
  | some index =>
      obtain ⟨before, byte, after, hbytes, hlength, hbyte, hafter⟩ := rposition_eq_some hlast
      rw [of_decide_eq_true hbyte] at hbytes
      exact .inr ⟨before, after, hbytes, hclean hafter, congrArg some hlength.symm⟩

/-- No newline waits between pushes. -/
theorem push_clean {decoder : StdinLineDecoder} (h : lf ∉ decoder.pending) (bytes : List UInt8) :
    lf ∉ (decoder.push display bytes).2.pending := by
  rcases push_cases bytes with ⟨hnone, hbytes⟩ | ⟨before, after, rfl, hafter, hlast⟩
  · rw [push_none hnone]
    intro hmem
    exact (List.mem_append.mp hmem).elim h hbytes
  · rw [push_newline hlast]
    dsimp only
    split
    · exact List.not_mem_nil
    · exact hafter

/-- One push makes the events of the lines it completes, or ends the input. -/
theorem lineEvents_push (decoder : StdinLineDecoder) (bytes rest : List UInt8) :
    lineEvents display (decoder.pending ++ (bytes ++ rest)) =
      (sendStdinEvents (decoder.push display bytes).1).1 ++
        if (sendStdinEvents (decoder.push display bytes).1).2 then
          lineEvents display ((decoder.push display bytes).2.pending ++ rest)
        else [] := by
  rcases push_cases bytes with ⟨hnone, _⟩ | ⟨before, after, rfl, _, hlast⟩
  · rw [push_none hnone, ← List.append_assoc]
    rfl
  · obtain ⟨lines, hlines, hsplit, _, hclean⟩ := splitInclusive_lines (decoder.pending ++ before)
    obtain ⟨hevents, hgoes⟩ := @lineEvents_pushLines display lines hclean (after ++ rest)
    have hinput : decoder.pending ++ (before ++ lf :: after ++ rest) =
        lines.flatMap (· ++ [lf]) ++ (after ++ rest) := by
      rw [← hlines]
      simp
    rw [push_newline hlast, hinput, hsplit]
    dsimp only
    rw [hevents, hgoes]
    cases (pushLines display (lines.map (· ++ [lf]))).2 <;> rfl

end StdinLineDecoder

/-! ## Reads -/

/-- The bytes that a read has delivered. -/
def StdinRead.delivered : StdinRead → List UInt8
  | .input bytes _ => bytes
  | _ => []

/-- A read of bytes, or one that was interrupted. -/
def StdinRead.isInput : StdinRead → Bool
  | .input _ _ | .interrupted => true
  | _ => false

theorem driveStdinReader_eq (reads : List StdinRead) (h : ∀ read ∈ reads, read.isInput = true)
    {decoder : StdinLineDecoder} (hclean : lf ∉ decoder.pending) :
    driveStdinReader display decoder (reads ++ [.eof]) =
      (lineEvents display (decoder.pending ++ reads.flatMap StdinRead.delivered), some (.ok ())) := by
  induction reads generalizing decoder with
  | nil =>
      rw [List.flatMap_nil, List.append_nil, lineEvents_remainder hclean]
      rfl
  | cons read reads ih =>
      have hrest := fun other hother => h other (List.mem_cons_of_mem read hother)
      cases read with
      | interrupted =>
          rw [List.cons_append, driveStdinReader, List.flatMap_cons]
          exact ih hrest hclean
      | input bytes hbytes =>
          have hpush := @StdinLineDecoder.lineEvents_push display decoder bytes
            (reads.flatMap StdinRead.delivered)
          have hmore := ih hrest (@StdinLineDecoder.push_clean display decoder hclean bytes)
          rw [List.flatMap_cons, StdinRead.delivered, hpush, List.cons_append, driveStdinReader]
          dsimp only
          split
          · rw [hmore]
          · rw [List.append_nil]
      | cancelled => exact absurd (h _ List.mem_cons_self) Bool.false_ne_true
      | inputFailed error => exact absurd (h _ List.mem_cons_self) Bool.false_ne_true
      | mechanismFailed reason => exact absurd (h _ List.mem_cons_self) Bool.false_ne_true
      | readFailed error => exact absurd (h _ List.mem_cons_self) Bool.false_ne_true
      | eof => exact absurd (h _ List.mem_cons_self) Bool.false_ne_true

end Events

/-- However standard input is cut into reads, and however often these are
    interrupted, the reader sends the events of the whole input and returns;
    and between pushes no newline is waiting. -/
theorem chunking_irrelevant (display : List UInt8 → String) (reads : List StdinRead)
    (h : ∀ read ∈ reads, read.isInput = true) :
    driveStdinReader display ⟨[]⟩ (reads ++ [.eof]) =
        (lineEvents display (reads.flatMap StdinRead.delivered), some (.ok ())) ∧
      ∀ chunks : List (List UInt8), lf ∉ (chunks.foldl (fun decoder bytes =>
        (StdinLineDecoder.push display decoder bytes).2) ⟨[]⟩).pending := by
  refine ⟨driveStdinReader_eq reads h List.not_mem_nil, ?_⟩
  intro chunks
  have hkept (decoder : StdinLineDecoder) (hclean : lf ∉ decoder.pending) :
      lf ∉ (chunks.foldl (fun decoder bytes =>
        (StdinLineDecoder.push display decoder bytes).2) decoder).pending := by
    induction chunks generalizing decoder with
    | nil => exact hclean
    | cons bytes chunks ih => exact ih _ (StdinLineDecoder.push_clean hclean bytes)
  exact hkept ⟨[]⟩ List.not_mem_nil

/-- `"é\r\nb"`, cut inside the letter and between the carriage return and the
    line feed. -/
def cutLetter : List StdinRead :=
  [.input [195] (by decide), .interrupted, .input [169, 13] (by decide),
    .input [10, 98] (by decide)]

theorem chunking_irrelevant_letter :
    driveStdinReader (fun _ => "") ⟨[]⟩ (cutLetter ++ [.eof]) =
      (lineEvents (fun _ => "") [195, 169, 13, 10, 98], some (.ok ())) :=
  (chunking_irrelevant (fun _ => "") cutLetter (by decide)).1

end Samara.Live
