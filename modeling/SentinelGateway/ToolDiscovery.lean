import SentinelGateway.Http
import SentinelGateway.Protocol.MemberOrder
import SentinelGateway.Stdio.Traffic

/-!
# Discovering the tools of a child

Before a child is used it is asked for its tools: `initialize`, then the notification that
this is done, then `tools/list`. The dispatch loop is the other side of that conversation,
so that a gateway can be the child of a gateway. The two sides agree: however the messages
are under way and whatever is reloaded in between, a discovery of which no message is lost
ends with the tools the other gateway lists; and a discovery that fails has lost one.
-/

namespace SentinelGateway

/-- The reader of `rmcp::model::Tool`, and its complaint about what is no sequence. -/
structure ToolDecoder where
  decodeTool : Json → Except String Tool
  notSequence : Json → String

/-- `serde_json::from_value` at `Vec<Tool>`. -/
def ToolDecoder.decodeTools (decoder : ToolDecoder) : Json → Except String (List Tool)
  | .array items => items.mapM decoder.decodeTool
  | value => .error (decoder.notSequence value)

/-- The tools in a response to `tools/list`. -/
def ToolDecoder.toolsOf (decoder : ToolDecoder) (serde : SerdeJson) (text : String) :
    Except String (List Tool) :=
  match serde.fromStr text with
  | .error e => .error e
  | .ok parsed =>
    match (parsed.get "result").bind (Json.get "tools") with
    | none => .error "no tools in tools/list response"
    | some value => decoder.decodeTools value

/-- How far a discovery is: which of its messages is next or to be answered, or what became
of it. -/
inductive DiscoveryPhase where
  | initializing
  | notifying
  | listing
  | finished (result : Except String (List Tool))

/-- The message of a phase. -/
def DiscoveryPhase.body? : DiscoveryPhase → Option Json
  | .initializing => some discoveryInitialize
  | .notifying => some discoveryInitialized
  | .listing => some discoveryToolsList
  | .finished _ => none

/-- `discover_stdio_tools`, after each of its messages. The notification has only to be
handed over. -/
def ToolDecoder.discoverStdioTools (decoder : ToolDecoder) (serde : SerdeJson) :
    DiscoveryPhase → Except BackendError String → DiscoveryPhase
  | .initializing, .error e => .finished (.error ("MCP initialize failed: " ++ e.display))
  | .initializing, .ok _ => .notifying
  | .notifying, .error _ =>
    .finished (.error "failed to send notifications/initialized: stdin closed")
  | .notifying, .ok _ => .listing
  | .listing, .error e => .finished (.error ("MCP tools/list failed: " ++ e.display))
  | .listing, .ok text => .finished (decoder.toolsOf serde text)
  | .finished result, _ => .finished result

/-- What the reader of the child's output hands to the one call that is pending when it
comes to a line. -/
def heard (serde : SerdeJson) (id : UInt64) (line : String) : Option String :=
  ((ChildPipe.awaiting id).step serde (.print line)).bind fun pipe =>
    match pipe.reader with
    | .delivering _ text => some text
    | _ => none

theorem heard_of_lineId {serde : SerdeJson} {id : UInt64} {line : String}
    (h : ChildPipe.lineId serde line = some id) : heard serde id line = some (trim line) := by
  rw [heard, (ChildPipe.awaitsOnly_awaiting id).take h]
  rfl

/-- A discovery and the gateway at its other end. The discovery waits for the response with
an identifier, or is about to send its next message. Between the two there are lines that
the other gateway has not taken up, and lines that the reader of its output has not come
to. -/
structure Conversation where
  client : DiscoveryPhase
  waiting : Option UInt64
  inbox : List String
  server : DispatchState
  outbox : List String

/-- The next message is sent, the other gateway processes a line, the reader comes to a
line, a message can not be handed over or its answer does not come, or the other gateway
reloads its configuration. -/
inductive ConversationLabel where
  | send
  | process (env : InboundLine)
  | hear
  | fail (error : BackendError)
  | reload (hotConfig : HotConfig)

/-- The step brings the conversation forward. -/
def ConversationLabel.isMove : ConversationLabel → Bool
  | .send | .process _ | .hear => true
  | .fail _ | .reload _ => false

/-- The other gateway processes a line. -/
def ConversationLabel.isProcess : ConversationLabel → Bool
  | .process _ => true
  | .send | .hear | .fail _ | .reload _ => false

namespace Conversation

/-- One step. -/
def step (decoder : ToolDecoder) (gw : Gateway) (s : Conversation) :
    ConversationLabel → Option Conversation
  | .send =>
    match s.waiting, s.client.body? with
    | none, some body =>
      let text := gw.serde.toString body
      match s.client with
      | .notifying => some { s with
          inbox := s.inbox ++ [text]
          client := decoder.discoverStdioTools gw.serde .notifying (.ok "") }
      | phase =>
        match ChildPipe.requestId gw.serde text with
        | .error e => some { s with client := decoder.discoverStdioTools gw.serde phase (.error e) }
        | .ok id => some { s with inbox := s.inbox ++ [text], waiting := some id }
    | _, _ => none
  | .process env =>
    match s.inbox with
    | [] => none
    | text :: inbox =>
      let result := gw.step s.server (.line { env with text })
      some { s with
        inbox
        server := result.1
        outbox := s.outbox ++ (responses result.2).map gw.sendResponse }
  | .hear =>
    match s.outbox with
    | [] => none
    | line :: outbox =>
      match s.waiting.bind fun id => heard gw.serde id line with
      | none => some { s with outbox }
      | some text => some { s with
          outbox
          waiting := none
          client := decoder.discoverStdioTools gw.serde s.client (.ok text) }
  | .fail error =>
    match s.client with
    | .finished _ => none
    | phase => some { s with
        waiting := none
        client := decoder.discoverStdioTools gw.serde phase (.error error) }
  | .reload hotConfig =>
    some { s with server := (gw.step s.server (.replaceHotConfig hotConfig)).1 }

/-- A child that was just spawned, and the discovery of its tools. -/
def start (server : DispatchState) : Conversation :=
  { client := .initializing, waiting := none, inbox := [], server, outbox := [] }

end Conversation

/-- The answer of a gateway to the `initialize` of a discovery, with its parameters. -/
def Gateway.greeting (gw : Gateway) (params : Json) : JsonRpcResponse :=
  match handleInitialize gw.decodeInitialize params with
  | .ok result => .success (.number 1) result
  | .error (code, message) => .failure (.number 1) code message

/-- The answer to its `tools/list`. -/
def Gateway.listingResponse (gw : Gateway) (killSwitch : KillSwitchConfig) : JsonRpcResponse :=
  .success (.number 2) (gw.toolsList killSwitch)

/-- The text is a line, and it is read as the value, up to the order of members. -/
structure ReadAs (serde : SerdeJson) (text : String) (value : Json) : Prop where
  trimmed : trim text = text
  nonempty : text ≠ ""
  read : ∃ v, serde.fromStr text = .ok v ∧ value.Reordered v

/-- What the two sides rely on: what `serde_json` prints of their messages it reads again,
with the members in some order, and a tool that was listed is read as that tool in any
order. -/
structure Understands (decoder : ToolDecoder) (gw : Gateway) : Prop where
  requests : ∀ body ∈ discoveryMessages,
    ∃ v, gw.serde.fromStr (gw.serde.toString body) = .ok v ∧ body.Reordered v
  greeting : ∀ params, discoveryParams.Reordered params →
    ReadAs gw.serde (gw.sendResponse (gw.greeting params)) (gw.greeting params).encode
  listing : ∀ killSwitch, ReadAs gw.serde (gw.sendResponse (gw.listingResponse killSwitch))
    (gw.listingResponse killSwitch).encode
  tools : ∀ tool ∈ gw.catalog.allTools, ∀ v, (Gateway.toolJson tool).Reordered v →
    decoder.decodeTool v = .ok tool

variable {decoder : ToolDecoder} {gw : Gateway} {st : DispatchState} {s t : Conversation}
  {labels : List ConversationLabel}

/-- The identifier of a request is read again. -/
theorem Understands.requestId (h : Understands decoder gw) {members : List (String × Json)}
    (hbody : Json.object members ∈ discoveryMessages) {id : UInt64}
    (hid : Json.uniqueField "id" members = some (some (.number (.posInt id)))) :
    ChildPipe.requestId gw.serde (gw.serde.toString (.object members)) = .ok id := by
  obtain ⟨v, hread, hsame⟩ := h.requests _ hbody
  obtain ⟨value, hvalue, hnumber⟩ := hsame.get hid
  have hread_id : value.asU64 = some id := hnumber.asU64_eq
  simp only [ChildPipe.requestId, hread, hvalue, Option.bind_some, hread_id]

theorem Understands.requestId_initialize (h : Understands decoder gw) :
    ChildPipe.requestId gw.serde (gw.serde.toString discoveryInitialize) = .ok 1 :=
  h.requestId (by simp [discoveryMessages, discoveryInitialize]) rfl

theorem Understands.requestId_toolsList (h : Understands decoder gw) :
    ChildPipe.requestId gw.serde (gw.serde.toString discoveryToolsList) = .ok 2 :=
  h.requestId (by simp [discoveryMessages, discoveryToolsList]) rfl

/-- A message is parsed as what it is. -/
theorem Understands.parseRequest (h : Understands decoder gw) {members : List (String × Json)}
    (hbody : Json.object members ∈ discoveryMessages) {request : JsonRpcRequest}
    (hdecode : JsonRpcRequest.decode (.object members) = some request) (env : InboundLine) :
    ∃ params, gw.parseRequest { env with text := gw.serde.toString (.object members) } =
        .ok { request with params } ∧ Option.Rel Json.Reordered request.params params := by
  obtain ⟨v, hread, hsame⟩ := h.requests _ hbody
  obtain ⟨params, hdecoded, hparams⟩ := JsonRpcRequest.decode_reordered hsame hdecode
  refine ⟨params, ?_, hparams⟩
  rw [Gateway.parseRequest, SerdeJson.read]
  simp only [hread, hdecoded]

/-- The reader hands on a line that is read as a response to the request. -/
theorem heard_of_readAs {serde : SerdeJson} {response : JsonRpcResponse} {id : UInt64}
    {text : String} (h : ReadAs serde text response.encode) (hid : response.id = .number id) :
    heard serde id text = some text := by
  obtain ⟨v, hread, hsame⟩ := h.read
  have hfield : Json.uniqueField "id" response.members = some (some (.number (.posInt id))) := by
    unfold JsonRpcResponse.members
    rw [hid]
    cases response.result <;> cases response.error <;> rfl
  obtain ⟨value, hvalue, hnumber⟩ := hsame.get hfield
  have hread_id : value.asU64 = some id := hnumber.asU64_eq
  have hline : ChildPipe.lineId serde text = some id := by
    simp only [ChildPipe.lineId, h.trimmed, if_neg h.nonempty, hread, hvalue, Option.bind_some,
      hread_id]
  rw [heard_of_lineId hline, h.trimmed]

/-- Tools are read from their descriptions in any order of members. -/
theorem decodeTools_of_reordered {tools : List Tool}
    (htools : ∀ tool ∈ tools, ∀ v, (Gateway.toolJson tool).Reordered v →
      decoder.decodeTool v = .ok tool) {v : Json}
    (h : (Json.array (tools.map Gateway.toolJson)).Reordered v) :
    decoder.decodeTools v = .ok tools := by
  cases h with
  | @array _ items same =>
    rw [ToolDecoder.decodeTools]
    rw [List.forall₂_map_left_iff] at same
    induction same with
    | nil => rfl
    | @cons tool item tools items hitem _ ih =>
      rw [List.mapM_cons, htools tool List.mem_cons_self item hitem,
        ih fun other hother => htools other (List.mem_cons_of_mem _ hother)]
      rfl

/-- The tools of the response to `tools/list` are those that were listed. -/
theorem Understands.toolsOf (h : Understands decoder gw) (killSwitch : KillSwitchConfig) :
    decoder.toolsOf gw.serde (gw.sendResponse (gw.listingResponse killSwitch)) =
      .ok (gw.listedTools killSwitch) := by
  obtain ⟨v, hread, hsame⟩ := (h.listing killSwitch).read
  have hresult : Json.uniqueField "result" (gw.listingResponse killSwitch).members =
      some (some (gw.toolsList killSwitch)) := rfl
  obtain ⟨result, hget, hresult⟩ := hsame.get hresult
  have hlist : Json.uniqueField "tools"
      [("tools", .array ((gw.listedTools killSwitch).map Gateway.toolJson))] =
      some (some (.array ((gw.listedTools killSwitch).map Gateway.toolJson))) := rfl
  obtain ⟨value, htools, hvalue⟩ := hresult.get hlist
  simp only [ToolDecoder.toolsOf, hread, hget, Option.bind_some, htools]
  refine decodeTools_of_reordered (fun tool htool => h.tools tool ?_) hvalue
  exact List.mem_of_mem_filter htool

namespace Conversation

theorem step_initializeQuery (h : Understands decoder gw) (hstate : st.state = .created)
    (env : InboundLine) :
    ∃ params, discoveryParams.Reordered params ∧
      gw.step st (.line { env with text := gw.serde.toString discoveryInitialize }) =
        ({ st with state := .initializing }, [.respond (gw.greeting params)]) := by
  have hdecode : JsonRpcRequest.decode discoveryInitialize =
      some ⟨"2.0", some (.number 1), "initialize", some discoveryParams⟩ := rfl
  obtain ⟨params, hparsed, hparams⟩ := h.parseRequest (by simp [discoveryMessages,
    discoveryInitialize]) hdecode env
  cases hparams with
  | some hsame =>
    refine ⟨_, hsame, ?_⟩
    rw [discoveryInitialize, Gateway.step_of_accepts ⟨hparsed, by rw [hstate]; rfl⟩]
    rfl

theorem step_initializedNotice (h : Understands decoder gw) (hstate : st.state = .initializing)
    (env : InboundLine) :
    gw.step st (.line { env with text := gw.serde.toString discoveryInitialized }) =
      ({ st with state := .operational }, []) := by
  have hdecode : JsonRpcRequest.decode discoveryInitialized =
      some ⟨"2.0", none, "notifications/initialized", none⟩ := rfl
  obtain ⟨params, hparsed, -⟩ := h.parseRequest (by simp [discoveryMessages,
    discoveryInitialized]) hdecode env
  rw [discoveryInitialized, Gateway.step_of_accepts ⟨hparsed, by rw [hstate]; rfl⟩]
  rfl

theorem step_listQuery (h : Understands decoder gw) (hstate : st.state = .operational)
    (env : InboundLine) :
    gw.step st (.line { env with text := gw.serde.toString discoveryToolsList }) =
      (st, [.respond (gw.listingResponse st.hotConfig.killSwitch)]) := by
  have hdecode : JsonRpcRequest.decode discoveryToolsList =
      some ⟨"2.0", some (.number 2), "tools/list", none⟩ := rfl
  obtain ⟨params, hparsed, -⟩ := h.parseRequest (by simp [discoveryMessages,
    discoveryToolsList]) hdecode env
  rw [discoveryToolsList, Gateway.step_of_accepts ⟨hparsed, by rw [hstate]; rfl⟩]
  rfl

/-- The number of messages the other gateway has processed along a run. -/
def processed (labels : List ConversationLabel) : ℕ := labels.countP ConversationLabel.isProcess

/-- The number of steps that brought the conversation forward. -/
def moves (labels : List ConversationLabel) : ℕ := labels.countP ConversationLabel.isMove

/-- The kill switch was in force when the other gateway processed the third message. -/
def ListedUnder (decoder : ToolDecoder) (gw : Gateway) (initial : DispatchState)
    (labels : List ConversationLabel) (killSwitch : KillSwitchConfig) : Prop :=
  ∃ before env after u, labels = before ++ .process env :: after ∧ processed before = 2 ∧
    Runs.exec (step decoder gw) (start initial) before = some u ∧
    u.server.hotConfig.killSwitch = killSwitch

theorem ListedUnder.concat {initial : DispatchState} {killSwitch : KillSwitchConfig}
    (h : ListedUnder decoder gw initial labels killSwitch) (label : ConversationLabel) :
    ListedUnder decoder gw initial (labels ++ [label]) killSwitch := by
  obtain ⟨before, env, after, u, rfl, hcount, hexec, hswitch⟩ := h
  exact ⟨before, env, after ++ [label], u, by simp, hcount, hexec, hswitch⟩

/-- Where the two sides are after some moves. A discovery that has not failed is at one of
ten places. The notification and the request after it can be under way together. -/
inductive Agree (decoder : ToolDecoder) (gw : Gateway) (initial : DispatchState)
    (labels : List ConversationLabel) : ℕ → ℕ → Conversation → Prop
  | fresh (server : DispatchState) (state : server.state = .created) :
      Agree decoder gw initial labels 0 0 ⟨.initializing, none, [], server, []⟩
  | asked (server : DispatchState) (state : server.state = .created) :
      Agree decoder gw initial labels 1 0
        ⟨.initializing, some 1, [gw.serde.toString discoveryInitialize], server, []⟩
  | greeted (server : DispatchState) (state : server.state = .initializing) (params : Json)
      (same : discoveryParams.Reordered params) :
      Agree decoder gw initial labels 2 1
        ⟨.initializing, some 1, [], server, [gw.sendResponse (gw.greeting params)]⟩
  | welcomed (server : DispatchState) (state : server.state = .initializing) :
      Agree decoder gw initial labels 3 1 ⟨.notifying, none, [], server, []⟩
  | notified (server : DispatchState) (state : server.state = .initializing) :
      Agree decoder gw initial labels 4 1
        ⟨.listing, none, [gw.serde.toString discoveryInitialized], server, []⟩
  | ready (server : DispatchState) (state : server.state = .operational) :
      Agree decoder gw initial labels 5 2 ⟨.listing, none, [], server, []⟩
  | rushed (server : DispatchState) (state : server.state = .initializing) :
      Agree decoder gw initial labels 5 1
        ⟨.listing, some 2, [gw.serde.toString discoveryInitialized,
          gw.serde.toString discoveryToolsList], server, []⟩
  | querying (server : DispatchState) (state : server.state = .operational) :
      Agree decoder gw initial labels 6 2
        ⟨.listing, some 2, [gw.serde.toString discoveryToolsList], server, []⟩
  | listed (server : DispatchState) (state : server.state = .operational)
      (killSwitch : KillSwitchConfig)
      (under : ListedUnder decoder gw initial labels killSwitch) :
      Agree decoder gw initial labels 7 3
        ⟨.listing, some 2, [], server, [gw.sendResponse (gw.listingResponse killSwitch)]⟩
  | done (server : DispatchState) (state : server.state = .operational)
      (killSwitch : KillSwitchConfig)
      (under : ListedUnder decoder gw initial labels killSwitch) :
      Agree decoder gw initial labels 8 3
        ⟨.finished (.ok (gw.listedTools killSwitch)), none, [], server, []⟩

/-- Another step does not matter to where the two sides are if it leaves the other gateway in
its lifecycle state. -/
theorem Agree.reload {initial : DispatchState} {m p : ℕ}
    (h : Agree decoder gw initial labels m p s) (label : ConversationLabel)
    (hotConfig : HotConfig) :
    Agree decoder gw initial (labels ++ [label]) m p
      { s with server := { s.server with hotConfig } } := by
  cases h with
  | fresh server state => exact .fresh { server with hotConfig } state
  | asked server state => exact .asked { server with hotConfig } state
  | greeted server state params same => exact .greeted { server with hotConfig } state params same
  | welcomed server state => exact .welcomed { server with hotConfig } state
  | notified server state => exact .notified { server with hotConfig } state
  | ready server state => exact .ready { server with hotConfig } state
  | rushed server state => exact .rushed { server with hotConfig } state
  | querying server state => exact .querying { server with hotConfig } state
  | listed server state killSwitch under =>
    exact .listed { server with hotConfig } state killSwitch (under.concat label)
  | done server state killSwitch under =>
    exact .done { server with hotConfig } state killSwitch (under.concat label)

/-- A request is sent, and the discovery waits for its response. -/
theorem step_send {phase : DiscoveryPhase} {body : Json} {id : UInt64} {inbox : List String}
    (hphase : phase ≠ .notifying) (hbody : phase.body? = some body)
    (hid : ChildPipe.requestId gw.serde (gw.serde.toString body) = .ok id) :
    (⟨phase, none, inbox, st, []⟩ : Conversation).step decoder gw .send =
      some ⟨phase, some id, inbox ++ [gw.serde.toString body], st, []⟩ := by
  cases phase with
  | notifying => exact absurd rfl hphase
  | finished => cases hbody
  | initializing | listing => simp only [step, hbody, hid]

/-- The other gateway processes a line. -/
theorem step_process {phase : DiscoveryPhase} {waiting : Option UInt64} {text : String}
    {inbox : List String} {server : DispatchState} {effects : List Effect} {env : InboundLine}
    (h : gw.step st (.line { env with text }) = (server, effects)) :
    (⟨phase, waiting, text :: inbox, st, []⟩ : Conversation).step decoder gw (.process env) =
      some ⟨phase, waiting, inbox, server, (responses effects).map gw.sendResponse⟩ := by
  simp only [step, h, List.nil_append]

/-- The response that the discovery waits for is heard. -/
theorem step_hear {phase : DiscoveryPhase} {id : UInt64} {line text : String}
    (h : heard gw.serde id line = some text) :
    (⟨phase, some id, [], st, [line]⟩ : Conversation).step decoder gw .hear =
      some ⟨decoder.discoverStdioTools gw.serde phase (.ok text), none, [], st, []⟩ := by
  simp only [step, Option.bind_some, h]

/-- The greeting carries the identifier of the request, whatever it says. -/
theorem id_greeting (gw : Gateway) (params : Json) : (gw.greeting params).id = .number 1 := by
  unfold Gateway.greeting
  cases handleInitialize gw.decodeInitialize params with
  | ok result => rfl
  | error complaint => rfl

/-- **A move.** The message that is sent, processed or heard is the one the other side waits
for. -/
theorem Agree.move {initial : DispatchState} (hunderstands : Understands decoder gw) {m p : ℕ}
    (h : Agree decoder gw initial labels m p s) (hcount : processed labels = p)
    (hexec : Runs.exec (Conversation.step decoder gw) (start initial) labels = some s)
    {label : ConversationLabel} (hmove : label.isMove = true)
    (hstep : s.step decoder gw label = some t) :
    Agree decoder gw initial (labels ++ [label]) (m + 1)
      (p + if label.isProcess then 1 else 0) t := by
  cases label with
  | fail | reload => cases hmove
  | send =>
    cases h with
    | fresh server state =>
      rw [step_send (by simp) rfl hunderstands.requestId_initialize] at hstep
      obtain rfl := Option.some.inj hstep
      exact .asked server state
    | welcomed server state =>
      obtain rfl := Option.some.inj hstep
      exact .notified server state
    | notified server state =>
      rw [step_send (by simp) rfl hunderstands.requestId_toolsList] at hstep
      obtain rfl := Option.some.inj hstep
      exact .rushed server state
    | ready server state =>
      rw [step_send (by simp) rfl hunderstands.requestId_toolsList] at hstep
      obtain rfl := Option.some.inj hstep
      exact .querying server state
    | asked | greeted | rushed | querying | listed | done => cases hstep
  | process env =>
    cases h with
    | asked server state =>
      obtain ⟨params, hsame, hserver⟩ := step_initializeQuery hunderstands state env
      rw [step_process hserver] at hstep
      obtain rfl := Option.some.inj hstep
      exact .greeted _ rfl params hsame
    | notified server state =>
      rw [step_process (step_initializedNotice hunderstands state env)] at hstep
      obtain rfl := Option.some.inj hstep
      exact .ready _ rfl
    | rushed server state =>
      rw [step_process (step_initializedNotice hunderstands state env)] at hstep
      obtain rfl := Option.some.inj hstep
      exact .querying _ rfl
    | querying server state =>
      rw [step_process (step_listQuery hunderstands state env)] at hstep
      obtain rfl := Option.some.inj hstep
      exact .listed server state _ ⟨labels, env, [], _, rfl, hcount, hexec, rfl⟩
    | fresh | greeted | welcomed | ready | listed | done => cases hstep
  | hear =>
    cases h with
    | greeted server state params same =>
      rw [step_hear (heard_of_readAs (hunderstands.greeting params same) (id_greeting gw params))]
        at hstep
      obtain rfl := Option.some.inj hstep
      exact .welcomed server state
    | listed server state killSwitch under =>
      have hdone : decoder.discoverStdioTools gw.serde .listing
          (.ok (gw.sendResponse (gw.listingResponse killSwitch))) =
            .finished (.ok (gw.listedTools killSwitch)) :=
        congrArg DiscoveryPhase.finished (hunderstands.toolsOf killSwitch)
      rw [step_hear (heard_of_readAs (hunderstands.listing killSwitch) rfl), hdone] at hstep
      obtain rfl := Option.some.inj hstep
      exact .done server state killSwitch (under.concat _)
    | fresh | asked | welcomed | notified | ready | rushed | querying | done => cases hstep

/-- A discovery that is over stays as it is. -/
theorem client_of_finished {result : Except String (List Tool)} {label : ConversationLabel}
    (h : s.client = .finished result) (hstep : s.step decoder gw label = some t) :
    t.client = .finished result := by
  cases label with
  | send => cases hwaiting : s.waiting <;> simp [step, h, hwaiting, DiscoveryPhase.body?] at hstep
  | process env =>
    cases hinbox : s.inbox with
    | nil => simp [step, hinbox] at hstep
    | cons text inbox =>
      simp only [step, hinbox, Option.some.injEq] at hstep
      obtain rfl := hstep
      exact h
  | hear =>
    cases houtbox : s.outbox with
    | nil => simp [step, houtbox] at hstep
    | cons line outbox =>
      simp only [step, houtbox] at hstep
      split at hstep
      · obtain rfl := Option.some.inj hstep
        exact h
      · obtain rfl := Option.some.inj hstep
        rw [h]
        rfl
  | fail error => simp [step, h] at hstep
  | reload hotConfig =>
    obtain rfl := Option.some.inj hstep
    exact h

/-- A message that is lost ends the discovery with an error. -/
theorem client_of_fail {error : BackendError} (hstep : s.step decoder gw (.fail error) = some t) :
    ∃ message, t.client = .finished (.error message) := by
  cases hclient : s.client with
  | finished => simp [step, hclient] at hstep
  | initializing | notifying | listing =>
    simp only [step, hclient, Option.some.injEq] at hstep
    obtain rfl := hstep
    exact ⟨_, rfl⟩

/-- A message of the discovery was lost, and it ended with an error. -/
def Failed (labels : List ConversationLabel) (s : Conversation) : Prop :=
  (∃ error, .fail error ∈ labels) ∧ ∃ message, s.client = .finished (.error message)

theorem agree_of_exec {initial : DispatchState} (hunderstands : Understands decoder gw)
    (hinitial : initial.state = .created)
    (h : Runs.exec (step decoder gw) (start initial) labels = some s) :
    Agree decoder gw initial labels (moves labels) (processed labels) s ∨ Failed labels s := by
  refine Runs.exec_induction (step decoder gw) (motive := fun labels s =>
    Agree decoder gw initial labels (moves labels) (processed labels) s ∨ Failed labels s)
    (Or.inl (.fresh initial hinitial)) ?_ h
  rintro labels label s t hexec (hagree | ⟨⟨error, hlost⟩, message, hclient⟩) hstep
  · rw [moves, processed, List.countP_append, List.countP_append, List.countP_singleton,
      List.countP_singleton]
    cases label with
    | fail error =>
      exact Or.inr ⟨⟨error, List.mem_append_right _ (List.mem_singleton_self _)⟩,
        client_of_fail hstep⟩
    | reload hotConfig =>
      obtain rfl := Option.some.inj hstep
      exact Or.inl (hagree.reload _ hotConfig)
    | send | hear => exact Or.inl (hagree.move hunderstands rfl hexec rfl hstep)
    | process env => exact Or.inl (hagree.move hunderstands rfl hexec rfl hstep)
  · exact Or.inr ⟨⟨error, List.mem_append_left _ hlost⟩, message, client_of_finished hclient hstep⟩

/-- Until it has ended, a discovery that has not failed can go on. -/
theorem Agree.exists_move {initial : DispatchState} (hunderstands : Understands decoder gw)
    {m p : ℕ} (h : Agree decoder gw initial labels m p s) (hless : m < 8) :
    ∃ label : ConversationLabel, label.isMove = true ∧ (s.step decoder gw label).isSome = true := by
  cases h with
  | fresh server state =>
    refine ⟨.send, rfl, ?_⟩
    rw [step_send (by simp) rfl hunderstands.requestId_initialize]
    rfl
  | notified | ready =>
    refine ⟨.send, rfl, ?_⟩
    rw [step_send (by simp) rfl hunderstands.requestId_toolsList]
    rfl
  | welcomed => exact ⟨.send, rfl, rfl⟩
  | asked | rushed | querying => exact ⟨.process (.plain ""), rfl, rfl⟩
  | greeted | listed =>
    refine ⟨.hear, rfl, ?_⟩
    simp only [step]
    split <;> rfl
  | done => omega

/-- **A gateway discovers a gateway.** The messages of the discovery, the lines of the other
gateway and its reloads come in any order. A discovery that ends with tools has those that
the other gateway listed under the configuration in force when it processed the third
message; one that ends with an error has lost a message or an answer. And if none is lost,
then whatever the other gateway says to `initialize`: there is always a move until there
were eight, and then the discovery has its tools and the other gateway is operational. -/
theorem discovers_gateway (hunderstands : Understands decoder gw) {initial : DispatchState}
    (hinitial : initial.state = .created)
    (h : Runs.exec (step decoder gw) (start initial) labels = some s) :
    (∀ tools, s.client = .finished (.ok tools) → ∃ killSwitch,
      tools = gw.listedTools killSwitch ∧ ListedUnder decoder gw initial labels killSwitch) ∧
    (∀ message, s.client = .finished (.error message) → ∃ error, .fail error ∈ labels) ∧
    ((∀ error, .fail error ∉ labels) →
      moves labels ≤ 8 ∧
      (moves labels < 8 → ∃ label : ConversationLabel,
        label.isMove = true ∧ (s.step decoder gw label).isSome = true) ∧
      (moves labels = 8 → s.server.state = .operational ∧
        ∃ tools, s.client = .finished (.ok tools))) := by
  rcases agree_of_exec hunderstands hinitial h with hagree | ⟨hlost, message, hclient⟩
  · have hexists := hagree.exists_move hunderstands
    generalize moves labels = m at hagree hexists ⊢
    generalize processed labels = p at hagree
    refine ⟨?_, ?_, fun _ => ⟨?_, hexists, ?_⟩⟩
    · intro tools htools
      cases hagree with
      | done server state killSwitch under =>
        obtain rfl : gw.listedTools killSwitch = tools := by simpa using htools
        exact ⟨killSwitch, rfl, under⟩
      | _ => cases htools
    · intro message hclient
      cases hagree <;> cases hclient
    · cases hagree <;> decide
    · rintro rfl
      cases hagree with
      | done server state killSwitch under => exact ⟨state, _, rfl⟩
  · refine ⟨?_, fun _ _ => hlost, fun hnone => ?_⟩
    · intro tools htools
      rw [hclient] at htools
      cases htools
    · obtain ⟨error, hmem⟩ := hlost
      exact absurd hmem (hnone error)

/-- A discovery in which nothing is lost, the notification and the request after it are
under way together, and the other gateway reloads between the two. -/
def reloadedBetween (env : InboundLine) (hotConfig : HotConfig) : List ConversationLabel :=
  [.send, .process env, .hear, .send, .send, .process env, .reload hotConfig, .process env, .hear]

/-- It ends with the tools that are listed after the reload. -/
theorem exec_reloadedBetween (h : Understands decoder gw) {initial : DispatchState}
    (hinitial : initial.state = .created) (env : InboundLine) (hotConfig : HotConfig) :
    Runs.exec (step decoder gw) (start initial) (reloadedBetween env hotConfig) =
      some ⟨.finished (.ok (gw.listedTools hotConfig.killSwitch)), none, [],
        { initial with state := .operational, hotConfig }, []⟩ := by
  obtain ⟨params, hparams, hinitialize⟩ := step_initializeQuery h hinitial env
  have hgreeting := heard_of_readAs (h.greeting params hparams) (id_greeting gw params)
  have hnotice :=
    @step_initializedNotice decoder gw { initial with state := .initializing } h rfl env
  have hlist :=
    @step_listQuery decoder gw { initial with state := .operational, hotConfig } h rfl env
  have hlisting := heard_of_readAs (h.listing hotConfig.killSwitch) rfl
  have hdone : decoder.discoverStdioTools gw.serde .listing
      (.ok (gw.sendResponse (gw.listingResponse hotConfig.killSwitch))) =
        .finished (.ok (gw.listedTools hotConfig.killSwitch)) :=
    congrArg DiscoveryPhase.finished (h.toolsOf hotConfig.killSwitch)
  have hone (response : JsonRpcResponse) :
      (responses [.respond response]).map gw.sendResponse = [gw.sendResponse response] := rfl
  have hnone : (responses []).map gw.sendResponse = [] := rfl
  rw [reloadedBetween, start]
  rw [Runs.exec_cons, step_send (by simp) rfl h.requestId_initialize, Option.bind_some,
    List.nil_append]
  rw [Runs.exec_cons, step_process hinitialize, Option.bind_some, hone]
  rw [Runs.exec_cons, step_hear hgreeting, Option.bind_some]
  change Runs.exec (step decoder gw) ⟨.listing, none, [gw.serde.toString discoveryInitialized],
    { initial with state := .initializing }, []⟩ _ = _
  rw [Runs.exec_cons, step_send (by simp) rfl h.requestId_toolsList, Option.bind_some,
    List.singleton_append]
  rw [Runs.exec_cons, step_process hnotice, Option.bind_some, hnone]
  change Runs.exec (step decoder gw) ⟨.listing, some 2, [gw.serde.toString discoveryToolsList],
    { initial with state := .operational, hotConfig }, []⟩ _ = _
  rw [Runs.exec_cons, step_process hlist, Option.bind_some, hone]
  rw [Runs.exec_cons, step_hear hlisting, Option.bind_some, hdone, Runs.exec_nil]

/-- A tool, and a reader of such tools. -/
def queryTool : Tool := ⟨"query", some "Runs a query", [("type", .string "object")], []⟩

def queryDecoder : ToolDecoder where
  decodeTool value := match value.get "name", value.get "description", value.get "inputSchema" with
    | some (.string name), some (.string text), some (.object schema) =>
      .ok ⟨name, text, schema, []⟩
    | _, _, _ => .error "missing field"
  notSequence _ := "expected a sequence"

/-- The messages of a discovery of that tool, as long as it is listed and when it is not. -/
def queryMessages : List Json :=
  discoveryMessages ++
    [(JsonRpcResponse.success (.number 1) initializeResult).encode,
      (JsonRpcResponse.success (.number 2)
        (.object [("tools", .array [Gateway.toolJson queryTool])])).encode,
      (JsonRpcResponse.success (.number 2) (.object [("tools", .array [])])).encode]

/-- A gateway that has that tool. -/
def queryGateway : Gateway :=
  { Gateway.bare (.sorting queryMessages) with
    catalog := ToolCatalog.new.registerBackend "db" [queryTool] }

/-- The texts of that gateway are sorted. -/
example : queryGateway.serde.toString discoveryToolsList =
    "\x7b\"id\":2,\"jsonrpc\":\"2.0\",\"method\":\"tools/list\"\x7d" := by
  decide +kernel

/-- An object with one text has no other order. -/
theorem eq_of_reordered_singleton {name text : String} {v : Json}
    (h : (Json.object [(name, .string text)]).Reordered v) :
    v = .object [(name, .string text)] := by
  cases h with
  | @object _ values _ names same perm =>
    have hvalues := Json.forall₂_sameMember_iff.mpr ⟨names, same⟩
    rw [List.forall₂_cons_left_iff] at hvalues
    obtain ⟨⟨name', value⟩, rest, ⟨hname, hvalue⟩, hrest, rfl⟩ := hvalues
    obtain rfl := List.forall₂_nil_left_iff.mp hrest
    rw [List.singleton_perm] at perm
    cases hvalue
    obtain rfl : name' = name := hname
    rw [← perm]

/-- The text of an object begins and ends with a brace. -/
theorem readAs_of_object {serde : SerdeJson} {members ordered : List (String × Json)}
    (hsame : (Json.object members).Reordered (.object ordered))
    (hread : serde.fromStr (Json.object ordered).text = .ok (.object ordered)) :
    ReadAs serde (Json.object ordered).text (.object members) := by
  have hchars : (Json.object ordered).text.toList =
      '\x7b' :: (Json.membersChars ordered ++ ['\x7d']) := by
    rw [Json.text_eq, String.toList_ofList, Json.chars, List.cons_append]
  refine ⟨?_, ?_, _, hread, hsame⟩
  · have hopen : isWhiteSpace '\x7b' = false := by decide
    have hclose : isWhiteSpace '\x7d' = false := by decide
    rw [trim, hchars, List.dropWhile_cons_of_neg (by simp [hopen]), ← List.cons_append,
      List.rdropWhile_concat_neg _ _ _ (by simp [hclose]), List.cons_append, ← hchars,
      String.ofList_toList]
  · intro hempty
    rw [hempty] at hchars
    cases hchars

/-- What is printed of a message of that gateway is read again, with sorted members. -/
theorem fromStr_query {v : Json} (hmem : v ∈ queryMessages) :
    queryGateway.serde.fromStr (queryGateway.serde.toString v) = .ok v.sorted := by
  have hnodup : (queryMessages.map fun v => v.sorted.chars).Nodup := by decide +kernel
  exact SerdeJson.fromStr_sorting hnodup hmem

/-- A response of that gateway is read as what it is. -/
theorem readAs_query {response : JsonRpcResponse} (hmem : response.encode ∈ queryMessages) :
    ReadAs queryGateway.serde (queryGateway.sendResponse response) response.encode := by
  have hsame := response.encode.reordered_sorted
  have htext : queryGateway.sendResponse response = response.encode.sorted.text := rfl
  have hprinted := fromStr_query hmem
  rw [← Gateway.sendResponse, htext] at hprinted
  have hsorted : response.encode.sorted =
      .object ((Json.sortedMembers response.members).insertionSort Json.NameLE) := by
    rw [JsonRpcResponse.encode, Json.sorted]
  rw [htext]
  rw [hsorted] at hsame hprinted ⊢
  exact readAs_of_object hsame hprinted

/-- Its greeting is the usual one. -/
theorem greeting_query {params : Json} (hsame : discoveryParams.Reordered params) :
    queryGateway.greeting params = .success (.number 1) initializeResult := by
  have hversion : Json.uniqueField "protocolVersion" [("protocolVersion", .string "2025-03-26"),
      ("capabilities", .object []), ("clientInfo", .object [("name", .string "sentinel-gateway"),
        ("version", .string "0.1.0")])] = some (some (.string "2025-03-26")) := rfl
  obtain ⟨value, hget, hvalue⟩ := hsame.get hversion
  cases hvalue
  simp only [Gateway.greeting, handleInitialize, queryGateway, Gateway.bare, hget]

/-- It lists its tool, or none. -/
theorem listedTools_query (killSwitch : KillSwitchConfig) :
    queryGateway.listedTools killSwitch = [queryTool] ∨
      queryGateway.listedTools killSwitch = [] := by
  have hfilter (p : Tool → Bool) : [queryTool].filter p = [queryTool] ∨
      [queryTool].filter p = [] := by
    rw [List.filter_singleton]
    cases p queryTool with
    | true => exact Or.inl rfl
    | false => exact Or.inr rfl
  have hall : queryGateway.catalog.allTools = [queryTool] := rfl
  rw [Gateway.listedTools, hall]
  exact hfilter _

/-- The description of its tool is read in any order. -/
theorem decodeTool_query {v : Json} (hsame : (Gateway.toolJson queryTool).Reordered v) :
    queryDecoder.decodeTool v = .ok queryTool := by
  have hname : Json.uniqueField "name" [("name", .string "query"),
      ("description", .string "Runs a query"),
      ("inputSchema", .object [("type", .string "object")])] = some (some (.string "query")) := rfl
  have htext : Json.uniqueField "description" [("name", .string "query"),
      ("description", .string "Runs a query"),
      ("inputSchema", .object [("type", .string "object")])] =
        some (some (.string "Runs a query")) := rfl
  have hschema : Json.uniqueField "inputSchema" [("name", .string "query"),
      ("description", .string "Runs a query"),
      ("inputSchema", .object [("type", .string "object")])] =
        some (some (.object [("type", .string "object")])) := rfl
  obtain ⟨name, hgetName, hsameName⟩ := hsame.get hname
  obtain ⟨text, hgetText, hsameText⟩ := hsame.get htext
  obtain ⟨schema, hgetSchema, hsameSchema⟩ := hsame.get hschema
  obtain rfl := eq_of_reordered_singleton hsameSchema
  cases hsameName
  cases hsameText
  simp only [queryDecoder, hgetName, hgetText, hgetSchema]
  rfl

/-- The two sides understand each other about that tool. -/
theorem understands_query : Understands queryDecoder queryGateway where
  requests body hbody :=
    ⟨body.sorted, fromStr_query (List.mem_append_left _ hbody), body.reordered_sorted⟩
  greeting params hsame := by
    rw [greeting_query hsame]
    exact readAs_query (by simp [queryMessages])
  listing killSwitch := by
    rw [Gateway.listingResponse, Gateway.toolsList]
    rcases listedTools_query killSwitch with hlisted | hlisted
    · rw [hlisted]
      exact readAs_query (by simp [queryMessages])
    · rw [hlisted]
      exact readAs_query (by simp [queryMessages])
  tools tool htool v hsame := by
    obtain rfl : tool = queryTool := List.mem_singleton.mp htool
    exact decodeTool_query hsame

/-- The tool is switched off before the other gateway comes to the last request, and so the
discovery ends without tools. -/
theorem discovers_gateway_switched_off :
    let initial := Gateway.start ⟨{}, .new {}⟩ .new ∅
    let labels := reloadedBetween (.plain "") ⟨{ disabledTools := ["query"] }, .new {}⟩
    ∃ s, Runs.exec (step queryDecoder queryGateway) (start initial) labels = some s ∧
      s.server.state = .operational ∧ s.client = .finished (.ok []) ∧
      ∃ killSwitch, [] = queryGateway.listedTools killSwitch ∧
        ListedUnder queryDecoder queryGateway initial labels killSwitch := by
  intro initial labels
  have hs : Runs.exec _ (start initial) labels = some _ :=
    exec_reloadedBetween understands_query rfl _ _
  have hnone : queryGateway.listedTools { disabledTools := ["query"] } = [] := by decide +kernel
  rw [hnone] at hs
  obtain ⟨hlisted, -, hmoves⟩ := discovers_gateway understands_query rfl hs
  obtain ⟨hoperational, -⟩ := (hmoves (by simp [labels, reloadedBetween])).2.2 rfl
  exact ⟨_, hs, hoperational, rfl, hlisted [] rfl⟩

end Conversation

end SentinelGateway
