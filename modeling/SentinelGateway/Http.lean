import SentinelGateway.Gateway.Fidelity
import SentinelGateway.Library.EventStream
import SentinelGateway.Stdio.Requests

/-!
# Answers of HTTP backends

An HTTP backend answers a request with one JSON text or with a stream of events.
Of a stream, `parse_sse_data` takes the first data line there is. A stdio backend
answers with lines too, and there the reader takes the line whose identifier is
that of the request.
-/

namespace SentinelGateway

/-- A line without its line feed and the carriage return before it. -/
def dropCarriageReturn (line : List Char) : List Char :=
  if line.getLast? = some '\r' then line.dropLast else line

/-- The lines of a text, where `current` is what was read of the first one. -/
def linesFrom (current : List Char) : List Char → List (List Char)
  | [] => if current = [] then [] else [current]
  | c :: rest =>
    if c = '\n' then dropCarriageReturn current :: linesFrom [] rest
    else linesFrom (current ++ [c]) rest

/-- `str::lines`. -/
def lines (text : String) : List String := (linesFrom [] text.toList).map String.ofList

/-- What a data line starts with. -/
def dataField : List Char := ['d', 'a', 't', 'a', ':']

/-- The content of a data line, if the line is one and has any. -/
def dataContent (line : String) : Option String :=
  if dataField.isPrefixOf line.toList then
    let stripped := trim (String.ofList (line.toList.drop 5))
    if stripped = "" then none else some stripped
  else none

/-- `parse_sse_data`. -/
def parseSseData (raw : String) : Option String := (lines raw).findSome? dataContent

/-- A response of an HTTP server, with the body as text. -/
structure HttpResponse where
  status : UInt16
  contentType : Option String
  body : String

/-- `content_type.contains("text/event-stream")`. -/
def HttpResponse.isEventStream (response : HttpResponse) : Bool :=
  (response.contentType.getD "").toList.tails.any ("text/event-stream".toList.isPrefixOf ·)

/-- What `HttpBackend::send` makes of a response. -/
def HttpBackend.readResponse (response : HttpResponse) : Except BackendError String :=
  if ¬(200 ≤ response.status ∧ response.status < 300) then
    .error (.httpStatus response.status response.body)
  else if response.isEventStream then
    match parseSseData response.body with
    | some text => .ok text
    | none => .error .noDataInSse
  else .ok response.body

/-- The message in what an event says, if it says anything. -/
def eventMessage (said : List Char) : Option String :=
  let message := trim (String.ofList said)
  if message = "" then none else some message

/-- The media type of a response: its content type up to a semicolon, in lower case. -/
def HttpResponse.mediaType (response : HttpResponse) : String :=
  let name := (response.contentType.getD "").toList.takeWhile (· ≠ ';')
  String.ofList ((trim (String.ofList name)).toList.map Char.toLower)

/-- The messages in the body of a response: those of its events if it is a stream of
events, and otherwise the body itself. -/
def HttpResponse.messages (response : HttpResponse) : List String :=
  if response.mediaType = "text/event-stream" then
    (EventStream.events response.body.toList).filterMap fun event =>
      eventMessage (EventStream.said event)
  else [response.body]

/-- The text stands where the gateway looks for the answer: in the first line with a line
feed or the end of the body behind it that begins with `data:` and goes on with more than
blanks, or, if the content type does not contain `text/event-stream` in these letters, it
is the body. -/
inductive HttpResponse.StandsFirst (response : HttpResponse) : String → Prop
  | line (before after : List String) (line text : String)
      (stream : response.isEventStream = true)
      (split : lines response.body = before ++ line :: after)
      (content : dataContent line = some text)
      (skipped : ∀ other ∈ before, dataContent other = none) : StandsFirst response text
  | body (plain : response.isEventStream = false) : StandsFirst response response.body

/-- A stream as servers write it: without a byte order mark, its lines ended by a line feed
or by both characters, each event with one line of data and none of them broken off. -/
structure PlainlyFramed (body : String) : Prop where
  no_mark : body.toList.head? ≠ some EventStream.mark
  no_bare_return : ∀ before rest, body.toList = before ++ '\r' :: rest → rest.head? = some '\n'
  ended : body.toList = [] ∨ body.toList.getLast? = some '\n'
  single : ∀ event ∈ EventStream.events body.toList, event.length ≤ 1
  complete : EventStream.leftFrom [] (EventStream.lines body.toList) = []

/-- Without bare carriage returns, both ways to read lines agree. -/
theorem linesFrom_eq {text current : List Char} (hcurrent : '\r' ∉ current)
    (hreturn : ∀ before rest, text = before ++ '\r' :: rest → rest.head? = some '\n')
    (hended : text = [] ∧ current = [] ∨ text.getLast? = some '\n') :
    linesFrom current text = EventStream.linesFrom false current text := by
  induction hlength : text.length using Nat.strong_induction_on generalizing text current with
  | _ n ih =>
    cases text with
    | nil =>
      obtain ⟨-, rfl⟩ | hlast := hended
      · rfl
      · cases hlast
    | cons c rest =>
      have hlater : ∀ before after, rest = before ++ '\r' :: after → after.head? = some '\n' :=
        fun before after heq => hreturn (c :: before) after (by rw [heq, List.cons_append])
      have hlast : rest = [] ∧ c = '\n' ∨ rest.getLast? = some '\n' := by
        cases rest with
        | nil => simpa using hended
        | cons d rest => simpa using hended
      have hfirst : ¬(c = '\n' ∧ false = true) := by simp
      rw [linesFrom, EventStream.linesFrom, if_neg hfirst]
      by_cases hfeed : c = '\n'
      · have hkept : dropCarriageReturn current = current := by
          rw [dropCarriageReturn, if_neg]
          exact fun hend => hcurrent (List.mem_of_getLast? hend)
        rw [if_pos hfeed, if_pos (Or.inl hfeed), hkept, hfeed]
        refine congrArg (current :: ·)
          (ih rest.length (by simp [← hlength]) (by simp) hlater ?_ rfl)
        exact hlast.imp (fun h => ⟨h.1, rfl⟩) id
      · rw [if_neg hfeed]
        have hmore : rest.getLast? = some '\n' := hlast.resolve_left fun h => hfeed h.2
        by_cases hback : c = '\r'
        · subst hback
          obtain ⟨next, rfl⟩ := List.head?_eq_some_iff.mp (hreturn [] rest rfl)
          have hdropped : dropCarriageReturn (current ++ ['\r']) = current := by
            simp [dropCarriageReturn]
          have hshorter : next.length < n := by
            simp only [← hlength, List.length_cons]
            omega
          rw [if_pos (Or.inr rfl), linesFrom, if_pos rfl, hdropped, EventStream.linesFrom,
            if_pos ⟨rfl, by simp⟩]
          refine congrArg (current :: ·) (ih next.length hshorter (by simp) ?_ ?_ rfl)
          · exact fun before after heq => hlater ('\n' :: before) after (by rw [heq]; rfl)
          · cases next with
            | nil => exact Or.inl ⟨rfl, rfl⟩
            | cons d next => exact Or.inr (by simpa using hmore)
        · rw [if_neg (by simp [hfeed, hback])]
          refine ih rest.length (by simp [← hlength]) ?_ hlater (Or.inr hmore) rfl
          simpa [hcurrent] using Ne.symm hback

/-- One more blank in front makes no difference to `trim`. -/
theorem trim_space (text : List Char) :
    trim (String.ofList (' ' :: text)) = trim (String.ofList text) := by
  rw [trim, trim, String.toList_ofList, String.toList_ofList,
    List.dropWhile_cons_of_pos (by decide)]

/-- The content of a data line is the message in its data. -/
theorem dataContent_eq (line : List Char) :
    dataContent (String.ofList line) = (EventStream.data? line).bind eventMessage := by
  rw [dataContent, EventStream.data?, String.toList_ofList]
  by_cases hname : line = "data".toList
  · rw [hname]
    decide
  · rw [if_neg hname]
    by_cases hdata : dataField.isPrefixOf line
    · have hprefix : "data:".toList.isPrefixOf line = true := hdata
      have hvalue : trim (String.ofList
          (if (line.drop 5).head? = some ' ' then line.drop 6 else line.drop 5)) =
            trim (String.ofList (line.drop 5)) := by
        split_ifs with hspace
        · obtain ⟨value, hvalue⟩ := List.head?_eq_some_iff.mp hspace
          have hrest : line.drop 6 = value := by
            rw [← List.drop_drop (i := 1), hvalue]
            rfl
          rw [hvalue, hrest, trim_space]
        · rfl
      rw [if_pos hdata, if_pos hprefix, Option.bind_some, eventMessage, hvalue]
    · have hprefix : ¬"data:".toList.isPrefixOf line = true := hdata
      rw [if_neg hdata, if_neg hprefix]
      rfl

/-- **Selection.** Of a stream that is plainly framed, and announced in the usual letters,
the first message stands first. -/
theorem standsFirst_iff_head {response : HttpResponse}
    (hmedia : response.mediaType = "text/event-stream") (hstream : response.isEventStream = true)
    (hplain : PlainlyFramed response.body) (text : String) :
    response.StandsFirst text ↔ response.messages.head? = some text := by
  have hlines : lines response.body =
      (EventStream.lines response.body.toList).map String.ofList := by
    rw [lines, EventStream.lines, if_neg hplain.no_mark,
      linesFrom_eq (by simp) hplain.no_bare_return (hplain.ended.imp (fun h => ⟨h, rfl⟩) id)]
  have hfirst : parseSseData response.body = response.messages.head? := by
    rw [HttpResponse.messages, if_pos hmedia, List.head?_filterMap, EventStream.events,
      EventStream.findSome?_eventsFrom (fun _ hvalue => by cases hvalue) hplain.single
        hplain.complete, parseSseData, hlines, List.findSome?_map]
    exact congrArg (fun f => List.findSome? f _) (funext dataContent_eq)
  rw [← hfirst, parseSseData, List.findSome?_eq_some_iff]
  constructor
  · rintro (⟨before, after, line, _, -, hsplit, hcontent, hskipped⟩ | hbody)
    · exact ⟨before, line, after, hsplit, hcontent, hskipped⟩
    · simp [hstream] at hbody
  · rintro ⟨before, line, after, hsplit, hcontent, hskipped⟩
    exact .line before after line text hstream hsplit hcontent hskipped

namespace ChildPipe

variable {serde : SerdeJson} {s t : ChildPipe} {id : UInt64} {ticket : ℕ}

/-- The reader is at its next line, and only one request is pending. -/
structure AwaitsOnly (s : ChildPipe) (id : UInt64) (ticket : ℕ) : Prop where
  reading : s.reader = .reading
  pending : s.pending.lookup id = some ticket
  others : ∀ other, other ≠ id → s.pending.lookup other = none

/-- The reader takes up a line with the identifier. -/
theorem AwaitsOnly.take (h : s.AwaitsOnly id ticket) {line : String}
    (hline : lineId serde line = some id) :
    step serde s (.print line) = some { s with
      pending := s.pending.erase id
      reader := .delivering ticket (trim line) } := by
  simp only [step, h.reading, hline, h.pending]

/-- A child with one call on it. -/
def awaiting (id : UInt64) : ChildPipe := { new with pending := AList.singleton id 0 }

theorem awaitsOnly_awaiting (id : UInt64) : (awaiting id).AwaitsOnly id 0 where
  reading := rfl
  pending := List.dlookup_cons_eq [] id 0
  others other hother := AList.lookup_eq_none.mpr (by
    simpa [awaiting, AList.mem_keys] using hother)

end ChildPipe

namespace Gateway

variable {gw : Gateway} {st : DispatchState} {line : InboundLine} {id : JsonRpcId}
  {name : String} {params : Option Json}

end Gateway

end SentinelGateway
