import SentinelGateway.HealthServer
import SentinelGateway.Transport

/-!
# Messages as bytes

Between two processes a message is a line of bytes: the writers put a newline after
each, and the readers cut the stream at the newlines. A stream can break off anywhere,
also inside a character. What is read from it then is what was written, message by
message, and of the message it broke off in at most a piece. That holds of the
answers to the client as well as of the requests to a child, and so of a gateway that
is the child of another one.
-/

namespace SentinelGateway

/-- The bytes `stdio_writer` writes of its messages. -/
def stdioWriter (messages : List String) : List UInt8 :=
  messages.flatMap fun msg => strBytes msg ++ [newline]

/-- The line `stdin_writer` makes of a message. -/
def stdinLine (msg : String) : String :=
  if msg.endsWith "\n" then msg else msg ++ "\n"

/-- The bytes `stdin_writer` writes of its messages. -/
def stdinWriter (messages : List String) : List UInt8 :=
  messages.flatMap fun msg => strBytes (stdinLine msg)

/-- The message that a line of text is for `stdio_reader`, if it is not blank. -/
def content (text : String) : Option String :=
  if trimEnd text = "" then none else some (trimEnd text)

/-- A text that is one line: not blank, without a newline and without white space at its
end. What `serde_json::to_string` prints of an object is one. -/
def OneLine (text : String) : Prop :=
  '\n' ∉ text.toList ∧ trimEnd text = text ∧ text ≠ ""

instance (text : String) : Decidable (OneLine text) := inferInstanceAs (Decidable (_ ∧ _ ∧ _))

/-- A newline as a byte is a newline as a character. -/
theorem newline_mem_utf8EncodeChar {c : Char} :
    newline ∈ String.utf8EncodeChar c ↔ c = '\n' := by
  constructor
  · intro h
    have hvalue : c.val.toNat = 10 := by
      unfold String.utf8EncodeChar at h
      simp only at h
      generalize c.val.toNat = v at h
      split_ifs at h <;>
        simp only [List.mem_cons, List.not_mem_nil, or_false, newline, ← UInt8.toNat_inj,
          UInt8.toNat_ofNat', UInt8.reduceToNat] at h <;> omega
    exact Char.ext (UInt32.toNat_inj.mp hvalue)
  · rintro rfl
    decide

theorem strBytes_eq (text : String) :
    strBytes text = text.toList.flatMap String.utf8EncodeChar := by
  rw [strBytes, ← String.utf8Encode_toList]
  simp [List.utf8Encode]

theorem strBytes_append (a b : String) : strBytes (a ++ b) = strBytes a ++ strBytes b := by
  rw [strBytes_eq, strBytes_eq, strBytes_eq, String.toList_append, List.flatMap_append]

theorem newline_mem_strBytes {text : String} : newline ∈ strBytes text ↔ '\n' ∈ text.toList := by
  rw [strBytes_eq, List.mem_flatMap]
  constructor
  · rintro ⟨c, hmem, hbyte⟩
    rwa [newline_mem_utf8EncodeChar.mp hbyte] at hmem
  · intro hmem
    exact ⟨'\n', hmem, newline_mem_utf8EncodeChar.mpr rfl⟩

theorem decodeUtf8_strBytes (text : String) : decodeUtf8 (strBytes text) = some text := by
  have hvalid : ByteArray.IsValidUTF8 ⟨text.toByteArray.data.toList.toArray⟩ := text.isValidUTF8
  rw [decodeUtf8, strBytes, String.fromUTF8?, dif_pos hvalid]
  rfl

theorem strBytes_of_decodeUtf8 {raw : List UInt8} {text : String}
    (h : decodeUtf8 raw = some text) : strBytes text = raw := by
  rw [decodeUtf8, String.fromUTF8?] at h
  split_ifs at h
  obtain rfl := Option.some.inj h
  rfl

/-- A text whose bytes come first in those of another is a piece of it. -/
theorem isPrefix_of_strBytes {a b : String} (h : strBytes a <+: strBytes b) :
    a.toList <+: b.toList := by
  obtain ⟨rest, hrest⟩ := h
  refine List.isPrefix_of_utf8Encode_append_eq_utf8Encode ⟨rest.toArray⟩ ?_
  rw [String.utf8Encode_toList, String.utf8Encode_toList]
  apply ByteArray.ext
  apply Array.toList_inj.mp
  simpa [strBytes] using hrest

/-- The bytes up to the first newline are the first line. -/
theorem rawLines_append {line : List UInt8} (h : newline ∉ line) (rest : List UInt8) :
    rawLines (line ++ newline :: rest) = (line ++ [newline]) :: rawLines rest := by
  induction line with
  | nil => rw [List.nil_append, rawLines, if_pos rfl]; rfl
  | cons byte line ih =>
    rw [List.mem_cons, not_or] at h
    rw [List.cons_append, rawLines, if_neg (Ne.symm h.1), ih h.2]
    rfl

theorem rawLines_of_notMem {line : List UInt8} (h : newline ∉ line) (hline : line ≠ []) :
    rawLines line = [line] := by
  induction line with
  | nil => exact absurd rfl hline
  | cons byte line ih =>
    rw [List.mem_cons, not_or] at h
    rw [rawLines, if_neg (Ne.symm h.1)]
    cases line with
    | nil => rfl
    | cons next line => rw [ih h.2 (by simp)]

/-- The newline at the end of a line does not matter. -/
theorem trimEnd_newline (text : String) : trimEnd (text ++ "\n") = trimEnd text := by
  have hspace : isWhiteSpace '\n' = true := by decide
  unfold trimEnd
  rw [String.toList_append]
  change String.ofList ((text.toList ++ ['\n']).rdropWhile isWhiteSpace) = _
  rw [List.rdropWhile_concat_pos _ _ _ hspace]

theorem content_of_oneLine {text : String} (h : OneLine text) : content text = some text := by
  obtain ⟨-, htrim, hne⟩ := h
  rw [content, htrim, if_neg hne]

theorem strBytes_newline : strBytes "\n" = [newline] := by decide

namespace Transport

/-- A complete line is read as its content. -/
theorem messages_line (line : String) (rest : List (List UInt8)) :
    messages ((strBytes line ++ [newline]) :: rest) =
      (content line).toList ++ messages rest := by
  have hdecode : decodeUtf8 (strBytes line ++ [newline]) = some (line ++ "\n") := by
    rw [← strBytes_newline, ← strBytes_append]
    exact decodeUtf8_strBytes _
  have hread : stdioReader (readLine ((strBytes line ++ [newline]) :: rest)).1 =
      some (content line) := by
    rw [readLine, hdecode]
    simp only [stdioReader, trimEnd_newline]
    rfl
  rw [messages, hread]
  cases content line with
  | none => rfl
  | some text => rfl

/-- Complete lines are read first, whatever comes after them. -/
theorem messages_append {lines : List String} (hlines : ∀ line ∈ lines, '\n' ∉ line.toList)
    (rest : List UInt8) :
    messages (rawLines (stdioWriter lines ++ rest)) =
      lines.filterMap content ++ messages (rawLines rest) := by
  induction lines with
  | nil => rfl
  | cons line lines ih =>
    have hnewline : newline ∉ strBytes line :=
      fun hmem => hlines line (by simp) (newline_mem_strBytes.mp hmem)
    have hstream : stdioWriter (line :: lines) ++ rest =
        strBytes line ++ newline :: (stdioWriter lines ++ rest) := by
      simp [stdioWriter]
    rw [hstream, rawLines_append hnewline, messages_line,
      ih fun other hother => hlines other (List.mem_cons_of_mem _ hother), List.filterMap_cons]
    cases content line with
    | none => rfl
    | some text => rfl

/-- Of a line that broke off a piece is read, if any. -/
theorem messages_cut {line : String} {bytes : List UInt8} (hline : '\n' ∉ line.toList)
    (h : bytes <+: strBytes line) :
    ∃ cut : Option String, messages (rawLines bytes) = cut.toList ∧
      ∀ text ∈ cut, ∃ part, part.toList <+: line.toList ∧ content part = some text := by
  have hnewline : newline ∉ bytes := fun hmem => hline (newline_mem_strBytes.mp (h.subset hmem))
  by_cases hempty : bytes = []
  · subst hempty
    exact ⟨none, rfl, by simp⟩
  rw [rawLines_of_notMem hnewline hempty]
  cases hdecode : decodeUtf8 bytes with
  | none =>
    refine ⟨none, ?_, by simp⟩
    simp [messages, readLine, hdecode, stdioReader]
  | some part =>
    have hpart : part.toList <+: line.toList := by
      rw [← strBytes_of_decodeUtf8 hdecode] at h
      exact isPrefix_of_strBytes h
    have hread : stdioReader (readLine [bytes]).1 = some (content part) := by
      rw [readLine, hdecode]
      rfl
    refine ⟨content part, ?_, fun text htext => ⟨part, hpart, htext⟩⟩
    rw [messages, hread]
    cases content part with
    | none => rfl
    | some text => rfl

/-- The bytes of some lines broke off inside one of them, or in front of its newline, or
not at all. -/
theorem exists_of_isPrefix {lines : List String} {bytes : List UInt8}
    (h : bytes <+: stdioWriter lines) :
    ∃ before after rest, lines = before ++ after ∧ bytes = stdioWriter before ++ rest ∧
      (rest = [] ∨ ∃ line ∈ after.head?, rest <+: strBytes line) := by
  induction lines generalizing bytes with
  | nil => exact ⟨[], [], [], rfl, List.prefix_nil.mp h, Or.inl rfl⟩
  | cons line lines ih =>
    have hstream : ∀ lines, stdioWriter (line :: lines) =
        strBytes line ++ newline :: stdioWriter lines := by
      intro lines
      simp [stdioWriter]
    rw [hstream] at h
    rcases List.prefix_or_prefix_of_prefix h (List.prefix_append (strBytes line) _) with
      hshort | ⟨rest, rfl⟩
    · exact ⟨[], line :: lines, bytes, rfl, rfl, Or.inr ⟨line, rfl, hshort⟩⟩
    · rw [List.prefix_append_right_inj] at h
      cases rest with
      | nil =>
        refine ⟨[], line :: lines, strBytes line, rfl, List.append_nil _, Or.inr ⟨line, rfl, ?_⟩⟩
        exact List.prefix_refl _
      | cons byte rest =>
        obtain ⟨rfl, hrest⟩ := List.cons_prefix_cons.mp h
        obtain ⟨before, after, rest, rfl, rfl, hcut⟩ := ih hrest
        refine ⟨line :: before, after, rest, rfl, ?_, hcut⟩
        rw [hstream, List.append_assoc]
        rfl

/-- A piece of the first of the messages, as a reader takes it up. -/
def PieceOfFirst (messages : List String) (text : String) : Prop :=
  ∃ first ∈ messages.head?, ∃ part, part.toList <+: first.toList ∧ content part = some text

/-- **Framing.** However early a stream of lines breaks off, what is read from it are the
lines that were written completely, and at most a piece of the next one. -/
theorem messages_of_isPrefix {lines : List String} (hlines : ∀ line ∈ lines, '\n' ∉ line.toList)
    {bytes : List UInt8} (h : bytes <+: stdioWriter lines) :
    ∃ before after, lines = before ++ after ∧ ∃ cut : Option String,
      messages (rawLines bytes) = before.filterMap content ++ cut.toList ∧
        ∀ text ∈ cut, PieceOfFirst after text := by
  obtain ⟨before, after, rest, rfl, rfl, hcut⟩ := exists_of_isPrefix h
  refine ⟨before, after, rfl, ?_⟩
  rw [messages_append fun line hline => hlines line (List.mem_append_left _ hline)]
  rcases hcut with rfl | ⟨line, hfirst, hrest⟩
  · exact ⟨none, rfl, by simp⟩
  · have hline := hlines line (List.mem_append_right _ (List.mem_of_mem_head? hfirst))
    obtain ⟨cut, hread, hpieces⟩ := messages_cut hline hrest
    exact ⟨cut, by rw [hread], fun text htext => ⟨line, hfirst, hpieces text htext⟩⟩

end Transport

/-- The tasks between stdin and stdout, the bytes that have reached stdout, and those of
the message in hand that have not. -/
structure ByteTransport where
  transport : Transport
  out : List UInt8
  unwritten : List UInt8

/-- A byte reaches stdout, or one of the tasks makes a step. -/
inductive ByteLabel where
  | put
  | task (label : TransportLabel)

/-- The step of a task that a step is. -/
def ByteLabel.task? : ByteLabel → Option TransportLabel
  | .put => none
  | .task label => some label

namespace ByteTransport

open Transport

variable {gw : Gateway} {initial : DispatchState} {bytes : List UInt8} {s t : ByteTransport}
  {labels : List ByteLabel}

def start (initial : DispatchState) (bytes : List UInt8) : ByteTransport :=
  { transport := .start initial bytes, out := [], unwritten := [] }

/-- One step. A write succeeds when all bytes of its message have reached stdout, and
fails with any number of them there. `main` can return with any number of them there. -/
def step (gw : Gateway) (s : ByteTransport) : ByteLabel → Option ByteTransport
  | .put =>
    match s.transport.exited, s.transport.printer, s.unwritten with
    | false, .writing _, byte :: unwritten => some { s with out := s.out ++ [byte], unwritten }
    | _, _, _ => none
  | .task .fetch =>
    (s.transport.step gw .fetch).map fun transport =>
      { s with transport, unwritten := stdioWriter transport.printer.inHand }
  | .task (.write true) =>
    if s.unwritten = [] then
      (s.transport.step gw (.write true)).map fun transport => { s with transport }
    else none
  | .task label => (s.transport.step gw label).map fun transport => { s with transport }

/-- The bytes on stdout are those of the written messages and the first ones of the
message in hand, or of the one whose write failed. -/
structure Framed (gw : Gateway) (initial : DispatchState) (s : ByteTransport) : Prop where
  complete : stdioWriter s.transport.written <+: s.out
  in_hand : s.transport.printer ≠ .failed →
    s.out ++ s.unwritten = stdioWriter (s.transport.written ++ s.transport.printer.inHand)
  broken : s.transport.printer = .failed → ∃ text,
    s.transport.written ++ [text] <+: answers gw initial s.transport.events ∧
      s.out <+: stdioWriter (s.transport.written ++ [text])

theorem framed_start (gw : Gateway) (initial : DispatchState) (bytes : List UInt8) :
    Framed gw initial (start initial bytes) :=
  ⟨List.nil_prefix, fun _ => rfl, fun h => by cases h⟩

/-- Everything a step can do. -/
inductive StepCase (gw : Gateway) (s : ByteTransport) : ByteLabel → ByteTransport → Prop
  | put (text : String) (byte : UInt8) (rest : List UInt8)
      (printer : s.transport.printer = .writing text) (unwritten : s.unwritten = byte :: rest) :
      StepCase gw s .put { s with out := s.out ++ [byte], unwritten := rest }
  | fetched (transport : Transport) (task : s.transport.step gw .fetch = some transport) :
      StepCase gw s (.task .fetch)
        { s with transport, unwritten := stdioWriter transport.printer.inHand }
  | wrote (transport : Transport) (task : s.transport.step gw (.write true) = some transport)
      (arrived : s.unwritten = []) : StepCase gw s (.task (.write true)) { s with transport }
  | moved (label : TransportLabel) (transport : Transport)
      (task : s.transport.step gw label = some transport) (fetch : label ≠ .fetch)
      (write : label ≠ .write true) : StepCase gw s (.task label) { s with transport }

theorem step_cases {label : ByteLabel} (h : s.step gw label = some t) :
    StepCase gw s label t := by
  match label with
  | .put =>
    simp only [step] at h
    split at h
    · rename_i text byte rest _ hprinter hunwritten
      obtain rfl := Option.some.inj h
      exact .put text byte rest hprinter hunwritten
    · cases h
  | .task .fetch =>
    obtain ⟨transport, htask, rfl⟩ := Option.map_eq_some_iff.mp h
    exact .fetched transport htask
  | .task (.write true) =>
    simp only [step] at h
    split_ifs at h with harrived
    obtain ⟨transport, htask, rfl⟩ := Option.map_eq_some_iff.mp h
    exact .wrote transport htask harrived
  | .task .read | .task .forward | .task (.take _) | .task .hangUp | .task .noticeCancel
  | .task .respond | .task (.write false) | .task (.reload _) | .task .cancel | .task .exit =>
    simp only [step] at h
    obtain ⟨transport, htask, rfl⟩ := Option.map_eq_some_iff.mp h
    exact .moved _ transport htask (by simp) (by simp)

/-- Without the bytes, a run is one of the tasks. -/
theorem exec_transport (h : Runs.exec (step gw) (start initial bytes) labels = some s) :
    Runs.exec (Transport.step gw) (.start initial bytes) (labels.filterMap ByteLabel.task?) =
      some s.transport := by
  refine Runs.exec_induction (step gw)
    (motive := fun labels s => Runs.exec (Transport.step gw) (.start initial bytes)
      (labels.filterMap ByteLabel.task?) = some s.transport) rfl ?_ h
  intro labels label s t _ ih hstep
  rw [List.filterMap_append, Runs.exec_append, ih]
  cases step_cases hstep with
  | put => rfl
  | fetched transport task => simp [ByteLabel.task?, task]
  | wrote transport task => simp [ByteLabel.task?, task]
  | moved label transport task => simp [ByteLabel.task?, task]

/-- Only fetching and writing concern the writer, and answers are not taken back. -/
theorem printer_of_moved (initial : DispatchState) {label : TransportLabel} {u v : Transport}
    (h : u.step gw label = some v) (hfetch : label ≠ .fetch) (hwrite : ∀ ok, label ≠ .write ok) :
    v.printer = u.printer ∧ v.written = u.written ∧
      answers gw initial u.events <+: answers gw initial v.events := by
  cases Transport.step_cases h with
  | taken | reloaded =>
    rw [answers_concat]
    exact ⟨rfl, rfl, List.prefix_append _ _⟩
  | fetched | printerEnd => exact absurd rfl hfetch
  | wrote => exact absurd rfl (hwrite true)
  | failed => exact absurd rfl (hwrite false)
  | readEnd | readBlank | readMessage | forwarded | refused | hungUp | noticed | responded
  | dropped | stopped | exited => exact ⟨rfl, rfl, List.prefix_refl _⟩

theorem stdioWriter_append (before after : List String) :
    stdioWriter (before ++ after) = stdioWriter before ++ stdioWriter after :=
  List.flatMap_append

/-- While nothing is in hand, the bytes on stdout are those of the written messages. -/
theorem Framed.out_eq (h : Framed gw initial s) (hprinter : s.transport.printer = .receiving) :
    s.out = stdioWriter s.transport.written := by
  have hall := h.in_hand (by simp [hprinter])
  rw [hprinter, PrinterTask.inHand, List.append_nil] at hall
  refine (h.complete.eq_of_length_le ?_).symm
  rw [← hall, List.length_append]
  omega

theorem Framed.step {label : ByteLabel} (h : Framed gw initial s)
    (hanswers : s.transport.written ++ s.transport.printer.inHand <+:
      answers gw initial s.transport.events)
    (hcase : StepCase gw s label t) : Framed gw initial t := by
  cases hcase with
  | put text byte rest printer unwritten =>
    refine ⟨h.complete.trans (List.prefix_append _ _), fun hprinter => ?_, fun hfailed => ?_⟩
    · rw [← h.in_hand hprinter, unwritten, List.append_assoc]
      rfl
    · rw [printer] at hfailed
      cases hfailed
  | fetched transport task =>
    cases Transport.step_cases task with
    | fetched text printer queue =>
      have hout := h.out_eq printer
      refine ⟨h.complete, fun _ => ?_, fun hfailed => by cases hfailed⟩
      rw [hout, ← stdioWriter_append]
    | printerEnd printer queue senders =>
      have hout := h.out_eq printer
      refine ⟨h.complete, fun _ => ?_, fun hfailed => by cases hfailed⟩
      rw [hout, ← stdioWriter_append]
  | wrote transport task arrived =>
    cases Transport.step_cases task with
    | wrote text printer =>
      have hall := h.in_hand (by simp [printer])
      rw [arrived, List.append_nil, printer] at hall
      refine ⟨?_, fun _ => ?_, fun hfailed => by cases hfailed⟩
      · change stdioWriter (s.transport.written ++ [text]) <+: s.out
        rw [hall]
        exact List.prefix_refl _
      · rw [arrived, List.append_nil, hall]
        exact congrArg stdioWriter (List.append_nil _).symm
  | moved label transport task fetch write =>
    by_cases hlabel : label = .write false
    · subst hlabel
      cases Transport.step_cases task with
      | failed text printer =>
        have hall := h.in_hand (by simp [printer])
        rw [printer] at hall hanswers
        exact ⟨h.complete, fun hprinter => absurd rfl hprinter,
          fun _ => ⟨text, hanswers, s.unwritten, hall⟩⟩
    · have hwrite : ∀ ok, label ≠ .write ok := by
        intro ok
        cases ok with
        | true => exact write
        | false => exact hlabel
      obtain ⟨hprinter, hwritten, hgrow⟩ := printer_of_moved initial task fetch hwrite
      refine ⟨?_, ?_, ?_⟩
      · rw [hwritten]
        exact h.complete
      · rw [hwritten, hprinter]
        exact h.in_hand
      · rw [hwritten, hprinter]
        intro hfailed
        obtain ⟨text, hnext, hout⟩ := h.broken hfailed
        exact ⟨text, hnext.trans hgrow, hout⟩

theorem framed_of_exec (h : Runs.exec (step gw) (start initial bytes) labels = some s) :
    Framed gw initial s := by
  refine Runs.exec_induction (step gw) (motive := fun _ s => Framed gw initial s)
    (framed_start gw initial bytes) ?_ h
  intro labels label s t hexec ih hstep
  exact ih.step (flows_of_exec (exec_transport hexec)).written_answers (step_cases hstep)

/-- At most one message has been begun and not finished, and it is the next answer. -/
theorem Framed.exists_next (h : Framed gw initial s)
    (hanswers : s.transport.written ++ s.transport.printer.inHand <+:
      answers gw initial s.transport.events) :
    ∃ next : Option String,
      s.transport.written ++ next.toList <+: answers gw initial s.transport.events ∧
        s.out <+: stdioWriter (s.transport.written ++ next.toList) := by
  cases hprinter : s.transport.printer with
  | failed =>
    obtain ⟨text, hnext, hout⟩ := h.broken hprinter
    exact ⟨some text, hnext, hout⟩
  | writing text =>
    have hall := h.in_hand (by simp [hprinter])
    rw [hprinter] at hanswers hall
    exact ⟨some text, hanswers, s.unwritten, hall⟩
  | receiving | finished =>
    have hall := h.in_hand (by simp [hprinter])
    rw [hprinter] at hanswers hall
    exact ⟨none, hanswers, s.unwritten, hall⟩

/-- For lines, the two writers are the same. -/
theorem stdinWriter_eq {messages : List String} (h : ∀ msg ∈ messages, OneLine msg) :
    stdinWriter messages = stdioWriter messages := by
  unfold stdinWriter stdioWriter
  refine List.flatMap_congr fun msg hmsg => ?_
  have hlast : ¬msg.endsWith "\n" = true := by
    intro hends
    have hslice : msg.toSlice.endsWith "\n" = true := hends
    have hsuffix := String.Slice.endsWith_string_iff.mp hslice
    rw [String.copy_toSlice] at hsuffix
    exact (h msg hmsg).1 (hsuffix.subset (by decide))
  rw [stdinLine, if_neg hlast, strBytes_append, strBytes_newline]

theorem filterMap_content {messages : List String} (h : ∀ msg ∈ messages, OneLine msg) :
    messages.filterMap content = messages := by
  induction messages with
  | nil => rfl
  | cons msg messages ih =>
    rw [List.filterMap_cons_some (content_of_oneLine (h msg (by simp)))]
    rw [ih fun other hother => h other (List.mem_cons_of_mem _ hother)]

/-- What is read when the bytes of one more message may have begun to arrive. -/
theorem messages_next {written : List String} (hwritten : ∀ msg ∈ written, OneLine msg)
    {next : Option String} (hnext : ∀ msg ∈ next, OneLine msg) {out : List UInt8}
    (hcomplete : stdioWriter written <+: out)
    (hout : out <+: stdioWriter (written ++ next.toList)) (later : List String) :
    ∃ cut : Option String, messages (rawLines out) = written ++ cut.toList ∧
      ∀ text ∈ cut, PieceOfFirst (next.toList ++ later) text := by
  obtain ⟨rest, rfl⟩ := hcomplete
  rw [stdioWriter_append, List.prefix_append_right_inj] at hout
  rw [messages_append fun msg hmsg => (hwritten msg hmsg).1, filterMap_content hwritten]
  cases next with
  | none =>
    obtain rfl := List.prefix_nil.mp hout
    exact ⟨none, rfl, by simp⟩
  | some msg =>
    have hline := hnext msg rfl
    have hlines : ∀ line ∈ [msg], '\n' ∉ line.toList := by simpa using hline.1
    obtain ⟨before, after, hsplit, cut, hread, hpieces⟩ := messages_of_isPrefix hlines hout
    rw [hread]
    rcases List.append_eq_singleton_iff.mp hsplit.symm with ⟨rfl, rfl⟩ | ⟨rfl, rfl⟩
    · exact ⟨cut, rfl, hpieces⟩
    · -- the whole line has arrived, and the writer does not know it yet
      have hcut : cut = none := by
        cases cut with
        | none => rfl
        | some text =>
          obtain ⟨first, hfirst, -⟩ := hpieces text rfl
          cases hfirst
      subst hcut
      refine ⟨some msg, ?_, ?_⟩
      · rw [List.filterMap_cons_some (content_of_oneLine hline)]
        rfl
      · rintro text ⟨⟩
        exact ⟨_, rfl, _, List.prefix_refl _, content_of_oneLine hline⟩

/-- **A gateway behind a pipe.** The parent writes requests, and its stream breaks off
anywhere. Whatever the tasks of the gateway do, and however many bytes of its answers
have reached stdout: the lines it has taken up are the parent's first requests and at most
a piece of the next one, and what can be read from stdout are the first answers to these
lines and at most a piece of the next one. -/
theorem behind_a_pipe (gw : Gateway) (initial : DispatchState) {requests : List String}
    (hrequests : ∀ request ∈ requests, OneLine request) {input : List UInt8}
    (hinput : input <+: stdinWriter requests)
    (h : Runs.exec (step gw) (start initial input) labels = some s)
    (hprinted : ∀ answer ∈ answers gw initial s.transport.events, OneLine answer) :
    (∃ before after, requests = before ++ after ∧ ∃ cut : Option String,
      s.transport.events.filterMap eventText <+: before ++ cut.toList ∧
        ∀ text ∈ cut, PieceOfFirst after text) ∧
    ∃ after, answers gw initial s.transport.events = s.transport.written ++ after ∧
      ∃ cut : Option String, messages (rawLines s.out) = s.transport.written ++ cut.toList ∧
        ∀ text ∈ cut, PieceOfFirst after text := by
  have hflows := flows_of_exec (exec_transport h)
  have hframed := framed_of_exec h
  refine ⟨?_, ?_⟩
  · rw [stdinWriter_eq hrequests] at hinput
    obtain ⟨before, after, rfl, cut, hread, hpieces⟩ :=
      messages_of_isPrefix (fun request hrequest => (hrequests request hrequest).1) hinput
    rw [filterMap_content fun request hrequest =>
      hrequests request (List.mem_append_left _ hrequest)] at hread
    refine ⟨before, after, rfl, cut, ?_, hpieces⟩
    rw [← hread]
    exact hflows.taken_prefix
  · obtain ⟨next, ⟨later, hlater⟩, hout⟩ := hframed.exists_next hflows.written_answers
    rw [← hlater] at hprinted ⊢
    refine ⟨next.toList ++ later, List.append_assoc _ _ _, ?_⟩
    refine messages_next ?_ ?_ hframed.complete hout later
    · intro msg hmsg
      exact hprinted msg (List.mem_append_left _ (List.mem_append_left _ hmsg))
    · intro msg hmsg
      refine hprinted msg (List.mem_append_left _ (List.mem_append_right _ ?_))
      exact Option.mem_toList.mpr hmsg

/-- A request. -/
def pingMessage : Json :=
  .object [("jsonrpc", .string "2.0"), ("id", .number (.posInt 7)), ("method", .string "ping")]

/-- A gateway that reads this request. -/
def pingedGateway : Gateway := .bare (.ofValues [pingMessage])

/-- The text of the request, and that of the answer to it. -/
def pingText : String := pingMessage.text

def pongText : String := (resultJson 7).text

/-- The parent breaks off in its second request when the first is being answered. -/
def pingedRun : List ByteLabel :=
  [.task .read, .task .forward, .task (.take (.plain "")), .task .respond, .task .fetch] ++
    List.replicate 20 .put ++ [.task .read]

/-- Of the answer there are twenty bytes, and a reader takes up at most a piece of it. -/
theorem behind_a_pipe_pinged :
    let input := (stdinWriter [pingText, pingText]).take 50
    ∃ s, Runs.exec (step pingedGateway) (start (Gateway.start ⟨{}, .new {}⟩ .new ∅) input)
        pingedRun = some s ∧ s.out.length = 20 ∧
      ∃ after, [pongText] = s.transport.written ++ after ∧
        ∃ cut : Option String, messages (rawLines s.out) = s.transport.written ++ cut.toList ∧
          ∀ text ∈ cut, PieceOfFirst after text := by
  intro input
  have hfacts : (Runs.exec (step pingedGateway)
        (start (Gateway.start ⟨{}, .new {}⟩ .new ∅) input) pingedRun).map
      (fun s => (s.out.length,
        answers pingedGateway (Gateway.start ⟨{}, .new {}⟩ .new ∅) s.transport.events)) =
      some (20, [pongText]) := by
    decide +kernel
  obtain ⟨s, hs, heq⟩ := Option.map_eq_some_iff.mp hfacts
  obtain ⟨hlength, hanswers⟩ := Prod.mk.inj heq
  have hrequests : ∀ request ∈ [pingText, pingText], OneLine request := by
    simp only [List.mem_cons, List.not_mem_nil, or_false, or_self, forall_eq]
    decide +kernel
  have hprinted : OneLine pongText := by decide +kernel
  have hpipe := behind_a_pipe pingedGateway (Gateway.start ⟨{}, .new {}⟩ .new ∅) hrequests
    (List.take_prefix 50 _) hs (by simpa [hanswers] using hprinted)
  rw [hanswers] at hpipe
  exact ⟨s, hs, hlength, hpipe.2⟩

end ByteTransport

end SentinelGateway
