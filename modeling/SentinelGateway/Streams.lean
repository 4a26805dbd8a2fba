import SentinelGateway.Gateway.Responses
import SentinelGateway.Stdio.Requests

/-!
# Malformed bytes on a stream

The client writes to stdin and a child to its stdout, one message a line. Both
readers go line by line through a stream of bytes that may contain anything. What
is text but no message is skipped or answered with a parse error. What is not
even text makes `read_line` fail, and on that both readers leave their loop.
-/

namespace SentinelGateway

/-- The byte that ends a line. -/
def newline : UInt8 := 0x0a

/-- The lines of a stream, each with the newline that ends it. The last one may have none. -/
def rawLines : List UInt8 → List (List UInt8)
  | [] => []
  | byte :: bytes =>
    if byte = newline then [byte] :: rawLines bytes
    else
      match rawLines bytes with
      | [] => [[byte]]
      | line :: lines => (byte :: line) :: lines

/-- The text of a line, if it is valid UTF-8. -/
def decodeUtf8 (raw : List UInt8) : Option String := String.fromUTF8? ⟨raw.toArray⟩

/-- What `read_line` returns: `Ok(0)`, `Ok(_)` with the line in the buffer, or `Err(_)`. -/
inductive ReadLine where
  | eof
  | line (text : String)
  | error

/-- `read_line` on what is left of a stream. It fails on a line that is not valid UTF-8. -/
def readLine : List (List UInt8) → ReadLine × List (List UInt8)
  | [] => (.eof, [])
  | raw :: rest =>
    match decodeUtf8 raw with
    | some text => (.line text, rest)
    | none => (.error, rest)

/-- `str::trim_end`. -/
def trimEnd (text : String) : String := .ofList (text.toList.rdropWhile isWhiteSpace)

/-- What `stdio_reader` does with a line: `none` is the `break`, and otherwise the
message that is sent into the channel, if there is one. -/
def stdioReader : ReadLine → Option (Option String)
  | .eof => none
  | .line text => some (if trimEnd text = "" then none else some (trimEnd text))
  | .error => none

/-- What `stdout_reader` does with a line: it looks for the request the line
answers, or it leaves the loop. -/
def stdoutReader : ReadLine → PipeLabel
  | .eof => .endOfOutput
  | .line text => .print text
  | .error => .endOfOutput

/-- A session together with what is left of its client's bytes. When the reader is
gone the channel closes, and with it the session. -/
structure ClientStream where
  dispatch : DispatchState
  rest : List (List UInt8)
  isOpen : Bool

namespace ClientStream

/-- The client is about to write these bytes. -/
def start (dispatch : DispatchState) (bytes : List UInt8) : ClientStream :=
  { dispatch, rest := rawLines bytes, isOpen := true }

/-- One iteration of `stdio_reader`, and of the dispatch loop if it gets a message. The
environment of the line is given, and its text is the one read. -/
def step (gw : Gateway) (s : ClientStream) (env : InboundLine) : ClientStream × List Effect :=
  if s.isOpen then
    match stdioReader (readLine s.rest).1 with
    | none => ({ s with rest := (readLine s.rest).2, isOpen := false }, [])
    | some none => ({ s with rest := (readLine s.rest).2 }, [])
    | some (some text) =>
      let (dispatch, effects) := gw.step s.dispatch (.line { env with text })
      ({ s with dispatch, rest := (readLine s.rest).2 }, effects)
  else (s, [])

end ClientStream

/-- A child together with what is left of the bytes it prints. -/
structure StdoutStream where
  pipe : ChildPipe
  rest : List (List UInt8)

/-- The steps around a child whose output is a stream: the reader reads its next line,
or something else happens. -/
inductive StreamLabel where
  | readLine
  | task (label : PipeLabel)

namespace StdoutStream

/-- A child that was just spawned and is going to print these bytes. -/
def start (bytes : List UInt8) : StdoutStream := { pipe := .new, rest := rawLines bytes }

/-- One step. What is printed, and that the output ends, comes from the stream alone. -/
def step (serde : SerdeJson) (s : StdoutStream) : StreamLabel → Option StdoutStream
  | .readLine =>
    (s.pipe.step serde (stdoutReader (readLine s.rest).1)).map fun pipe =>
      { pipe, rest := (readLine s.rest).2 }
  | .task (.print _) => none
  | .task .endOfOutput => none
  | .task label => (s.pipe.step serde label).map fun pipe => { s with pipe }

end StdoutStream

/-- Every line of the stream is valid UTF-8. -/
def ValidUtf8 (bytes : List UInt8) : Prop := ∀ raw ∈ rawLines bytes, (decodeUtf8 raw).isSome = true

/-- A line from the client that is not blank and carries no request: not UTF-8, not
JSON, or JSON of another shape. -/
def MalformedRequest (gw : Gateway) (raw : List UInt8) : Prop :=
  ∀ text, decodeUtf8 raw = some text → trimEnd text ≠ "" ∧
    ∃ message, gw.serde.read JsonRpcRequest.decode (trimEnd text) = .error message

/-- A line from a child that is not blank and answers nothing: not UTF-8, not JSON,
or JSON without a numeric identifier. -/
def MalformedReply (serde : SerdeJson) (raw : List UInt8) : Prop :=
  ∀ text, decodeUtf8 raw = some text → trim text ≠ "" ∧ ChildPipe.lineId serde text = none

/-- If the next line is malformed it is answered with a parse error, and the session
goes on as if the line had not been in the stream. -/
def ClientStream.Survives (gw : Gateway) (s : ClientStream) : Prop :=
  ∀ raw later env, s.isOpen = true → s.rest = raw :: later → MalformedRequest gw raw →
    ∃ message, s.step gw env =
      ({ s with rest := later }, [.respond (.failure .null parseErrorCode message)])

/-- If the next line is malformed it is skipped, and everything around the child goes
on as if the line had not been in the stream. -/
def StdoutStream.Survives (serde : SerdeJson) (s : StdoutStream) : Prop :=
  ∀ raw later, s.pipe.reader = .reading → s.rest = raw :: later → MalformedReply serde raw →
    s.step serde .readLine = some { s with rest := later }

theorem readLine_snd (rest : List (List UInt8)) : (readLine rest).2 = rest.tail := by
  cases rest with
  | nil => rfl
  | cons raw rest =>
    simp only [readLine]
    cases decodeUtf8 raw with
    | none => rfl
    | some text => rfl

theorem readLine_of_text {raw : List UInt8} {text : String} (h : decodeUtf8 raw = some text)
    (later : List (List UInt8)) : readLine (raw :: later) = (.line text, later) := by
  simp only [readLine, h]

theorem readLine_of_invalid {raw : List UInt8} (h : decodeUtf8 raw = none)
    (later : List (List UInt8)) : readLine (raw :: later) = (.error, later) := by
  simp only [readLine, h]

/-- The first line of a stream that is not valid UTF-8. -/
theorem exists_first_invalid {bytes : List UInt8} (h : ¬ValidUtf8 bytes) :
    ∃ before raw later, rawLines bytes = before ++ raw :: later ∧ decodeUtf8 raw = none ∧
      ∀ earlier ∈ before, (decodeUtf8 earlier).isSome = true := by
  have hfound : ((rawLines bytes).find? fun raw => (decodeUtf8 raw).isNone).isSome = true := by
    simpa [ValidUtf8, List.find?_isSome] using h
  obtain ⟨raw, hraw⟩ := Option.isSome_iff_exists.mp hfound
  obtain ⟨hinvalid, before, later, hlines, hbefore⟩ := List.find?_eq_some_iff_append.mp hraw
  refine ⟨before, raw, later, hlines, by simpa using hinvalid, ?_⟩
  intro earlier hmem
  simpa [Option.isSome_iff_ne_none] using hbefore earlier hmem

namespace ClientStream

variable {gw : Gateway}

/-- Reading only ever shortens the stream. -/
theorem rest_step (gw : Gateway) (s : ClientStream) (env : InboundLine) :
    (s.step gw env).1.rest = s.rest ∨ (s.step gw env).1.rest = s.rest.tail := by
  unfold step
  split_ifs
  · right
    rw [← readLine_snd]
    split <;> rfl
  · exact Or.inl rfl

theorem rest_suffix_after (gw : Gateway) (s : ClientStream) (envs : List InboundLine) :
    (Runs.after (step gw) s envs).rest <:+ s.rest := by
  refine Runs.run_induction (step gw) (motive := fun _ t _ => t.rest <:+ s.rest)
    (List.suffix_refl _) ?_ envs
  intro envs env ih
  rcases rest_step gw (Runs.after (step gw) s envs) env with hsame | htail
  · rw [hsame]
    exact ih
  · rw [htail]
    exact (List.tail_suffix _).trans ih

/-- A line that is text keeps the session open. -/
theorem step_of_text (gw : Gateway) {s : ClientStream} {raw : List UInt8}
    {later : List (List UInt8)} {text : String} (hopen : s.isOpen = true)
    (hrest : s.rest = raw :: later) (htext : decodeUtf8 raw = some text) (env : InboundLine) :
    (s.step gw env).1.isOpen = true ∧ (s.step gw env).1.rest = later := by
  unfold step
  rw [if_pos hopen, hrest, readLine_of_text htext, stdioReader]
  split_ifs
  · exact ⟨hopen, rfl⟩
  · exact ⟨hopen, rfl⟩

/-- Every line up to the first one that is not text can be reached. -/
theorem exists_after (gw : Gateway) {s : ClientStream} {before later : List (List UInt8)}
    (hopen : s.isOpen = true) (hrest : s.rest = before ++ later)
    (hbefore : ∀ raw ∈ before, (decodeUtf8 raw).isSome = true) :
    ∃ envs, (Runs.after (step gw) s envs).isOpen = true ∧
      (Runs.after (step gw) s envs).rest = later := by
  induction before generalizing s with
  | nil => exact ⟨[], hopen, hrest⟩
  | cons raw before ih =>
    obtain ⟨text, htext⟩ := Option.isSome_iff_exists.mp (hbefore raw List.mem_cons_self)
    obtain ⟨hopen', hrest'⟩ := step_of_text gw hopen hrest htext (.plain "")
    obtain ⟨envs, hafter⟩ := ih hopen' hrest' fun other hother =>
      hbefore other (List.mem_cons_of_mem _ hother)
    exact ⟨.plain "" :: envs, hafter⟩

/-- A line that is text but no request is answered with a parse error. -/
theorem survives_of_text {s : ClientStream}
    (h : ∀ raw ∈ s.rest, (decodeUtf8 raw).isSome = true) : s.Survives gw := by
  intro raw later env hopen hrest hmalformed
  obtain ⟨text, htext⟩ := Option.isSome_iff_exists.mp (h raw (by simp [hrest]))
  obtain ⟨hne, message, hmessage⟩ := hmalformed text htext
  refine ⟨"Parse error: " ++ message, ?_⟩
  have hstep : gw.step s.dispatch (.line { env with text := trimEnd text }) =
      (s.dispatch, [.respond (.failure .null parseErrorCode ("Parse error: " ++ message))]) := by
    simp only [Gateway.step, Gateway.processLine, Gateway.parseRequest, hmessage]
  unfold step
  rw [if_pos hopen, hrest, readLine_of_text htext, stdioReader, if_neg hne]
  simp only [hstep]

/-- A line that is not text closes the session. -/
theorem not_survives_of_invalid {s : ClientStream} {raw : List UInt8}
    {later : List (List UInt8)} (hopen : s.isOpen = true) (hrest : s.rest = raw :: later)
    (hinvalid : decodeUtf8 raw = none) : ¬s.Survives gw := by
  intro h
  have hmalformed : MalformedRequest gw raw := by simp [MalformedRequest, hinvalid]
  obtain ⟨message, hstep⟩ := h raw later (.plain "") hopen hrest hmalformed
  unfold step at hstep
  rw [if_pos hopen, hrest, readLine_of_invalid hinvalid, stdioReader] at hstep
  simp at hstep

/-- The session survives every line exactly if all lines are valid UTF-8. -/
theorem survives_iff (gw : Gateway) (dispatch : DispatchState) (bytes : List UInt8) :
    (∀ envs, (Runs.after (step gw) (start dispatch bytes) envs).Survives gw) ↔
      ValidUtf8 bytes := by
  constructor
  · intro h
    by_contra hinvalid
    obtain ⟨before, raw, later, hlines, hraw, hbefore⟩ := exists_first_invalid hinvalid
    obtain ⟨envs, hopen, hrest⟩ :=
      exists_after gw (s := start dispatch bytes) rfl hlines hbefore
    exact not_survives_of_invalid hopen hrest hraw (h envs)
  · intro h envs
    apply survives_of_text
    intro raw hraw
    exact h raw ((rest_suffix_after gw (start dispatch bytes) envs).mem hraw)

end ClientStream

namespace StdoutStream

variable {serde : SerdeJson}

/-- Reading only ever shortens the stream. -/
theorem rest_step {s t : StdoutStream} {label : StreamLabel} (h : s.step serde label = some t) :
    t.rest = s.rest ∨ t.rest = s.rest.tail := by
  unfold step at h
  split at h
  · obtain ⟨pipe, -, rfl⟩ := Option.map_eq_some_iff.mp h
    exact Or.inr (readLine_snd s.rest)
  · cases h
  · cases h
  · obtain ⟨pipe, -, rfl⟩ := Option.map_eq_some_iff.mp h
    exact Or.inl rfl

theorem rest_suffix_of_exec {s t : StdoutStream} {labels : List StreamLabel}
    (h : Runs.exec (step serde) s labels = some t) : t.rest <:+ s.rest := by
  refine Runs.exec_induction (step serde) (motive := fun _ u => u.rest <:+ s.rest)
    (List.suffix_refl _) ?_ h
  intro labels label u v _ ih hstep
  rcases rest_step hstep with hsame | htail
  · rw [hsame]
    exact ih
  · rw [htail]
    exact (List.tail_suffix _).trans ih

/-- A line that is text but answers nothing is skipped. -/
theorem step_of_unanswered {s : StdoutStream} {raw : List UInt8} {later : List (List UInt8)}
    {text : String} (hreading : s.pipe.reader = .reading) (hrest : s.rest = raw :: later)
    (htext : decodeUtf8 raw = some text)
    (hnone : ∀ id, ChildPipe.lineId serde text = some id → s.pipe.pending.lookup id = none) :
    s.step serde .readLine = some { s with rest := later } := by
  have hprint : s.pipe.step serde (.print text) = some s.pipe := by
    simp only [ChildPipe.step, hreading]
    cases hid : ChildPipe.lineId serde text with
    | none => rfl
    | some id => simp only [hnone id hid]
  simp only [step, hrest, readLine_of_text htext, stdoutReader, hprint, Option.map_some]

/-- Every line up to the first one that is not text can be reached, with nothing pending. -/
theorem exists_exec (serde : SerdeJson) (before later : List (List UInt8))
    (hbefore : ∀ raw ∈ before, (decodeUtf8 raw).isSome = true) :
    ∃ labels, Runs.exec (step serde) { pipe := .new, rest := before ++ later } labels =
      some { pipe := .new, rest := later } := by
  induction before with
  | nil => exact ⟨[], rfl⟩
  | cons raw before ih =>
    obtain ⟨text, htext⟩ := Option.isSome_iff_exists.mp (hbefore raw List.mem_cons_self)
    obtain ⟨labels, hlabels⟩ := ih fun other hother => hbefore other (List.mem_cons_of_mem _ hother)
    have hstep : step serde { pipe := .new, rest := raw :: (before ++ later) } .readLine =
        some { pipe := .new, rest := before ++ later } :=
      step_of_unanswered rfl rfl htext fun _ _ => rfl
    refine ⟨.readLine :: labels, ?_⟩
    rw [List.cons_append, Runs.exec_cons, hstep, Option.bind_some, hlabels]

theorem survives_of_text {s : StdoutStream}
    (h : ∀ raw ∈ s.rest, (decodeUtf8 raw).isSome = true) : s.Survives serde := by
  intro raw later hreading hrest hmalformed
  obtain ⟨text, htext⟩ := Option.isSome_iff_exists.mp (h raw (by simp [hrest]))
  obtain ⟨-, hnone⟩ := hmalformed text htext
  exact step_of_unanswered hreading hrest htext (by simp [hnone])

/-- After a line that is not text the reader is gone, and what is pending will be drained. -/
theorem not_survives_of_invalid {s : StdoutStream} {raw : List UInt8}
    {later : List (List UInt8)} (hreading : s.pipe.reader = .reading)
    (hrest : s.rest = raw :: later) (hinvalid : decodeUtf8 raw = none) : ¬s.Survives serde := by
  intro h
  have hmalformed : MalformedReply serde raw := by simp [MalformedReply, hinvalid]
  have hskipped := h raw later hreading hrest hmalformed
  have hended : s.step serde .readLine =
      some { pipe := { s.pipe with reader := .ended }, rest := later } := by
    simp only [step, hrest, readLine_of_invalid hinvalid, stdoutReader, ChildPipe.step, hreading,
      Option.map_some]
  rw [hended, Option.some.injEq, StdoutStream.mk.injEq] at hskipped
  have hreader := congrArg ChildPipe.reader hskipped.1
  rw [hreading] at hreader
  cases hreader

/-- The reader survives every line exactly if all lines are valid UTF-8. -/
theorem survives_iff (serde : SerdeJson) (bytes : List UInt8) :
    (∀ labels s, Runs.exec (step serde) (start bytes) labels = some s → s.Survives serde) ↔
      ValidUtf8 bytes := by
  constructor
  · intro h
    by_contra hinvalid
    obtain ⟨before, raw, later, hlines, hraw, hbefore⟩ := exists_first_invalid hinvalid
    obtain ⟨labels, hlabels⟩ := exists_exec serde before (raw :: later) hbefore
    rw [← hlines] at hlabels
    exact not_survives_of_invalid rfl rfl hraw (h labels _ hlabels)
  · intro h labels s hs
    apply survives_of_text
    intro raw hraw
    exact h raw ((rest_suffix_of_exec hs).mem hraw)

end StdoutStream

/-- **Malformed bytes.** In every run, a malformed line of the client is answered with
a parse error, and a malformed line of a child is skipped, and everything later
goes on as if the line had not been there: exactly if each line of the stream is
valid UTF-8. -/
theorem malformed_survived_iff (gw : Gateway) (dispatch : DispatchState) (bytes : List UInt8) :
    ((∀ envs, (Runs.after (ClientStream.step gw) (.start dispatch bytes) envs).Survives gw) ↔
      ValidUtf8 bytes) ∧
    ((∀ labels s, Runs.exec (StdoutStream.step gw.serde) (.start bytes) labels = some s →
      s.Survives gw.serde) ↔ ValidUtf8 bytes) :=
  ⟨ClientStream.survives_iff gw dispatch bytes, StdoutStream.survives_iff gw.serde bytes⟩

/-- A line with the byte 0xff in front of a blank one. The client's session is closed,
and the child's reader has left its loop, with what is pending to be drained. -/
theorem not_malformed_survived :
    let gw := Gateway.bare (.ofValues [])
    let bytes := [0xff, newline, newline]
    ¬(∀ envs, (Runs.after (ClientStream.step gw) (.start (Gateway.start ⟨{}, .new {}⟩ .new ∅) bytes)
        envs).Survives gw) ∧
      ¬(∀ labels s, Runs.exec (StdoutStream.step gw.serde) (.start bytes) labels = some s →
        s.Survives gw.serde) := by
  intro gw bytes
  have hlines : rawLines bytes = [[0xff, newline], [newline]] := by decide
  have hinvalid : decodeUtf8 [0xff, newline] = none := by decide
  refine ⟨?_, ?_⟩
  · intro h
    exact ClientStream.not_survives_of_invalid rfl hlines hinvalid (h [])
  · intro h
    exact StdoutStream.not_survives_of_invalid rfl hlines hinvalid (h [] _ rfl)

end SentinelGateway
