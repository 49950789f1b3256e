import TurboMac.Lib.Lines
import TurboMac.Linux.Protocol

/-! # `server.py`, and the client of `protocol.py`

`_Conn._serve` reads a connection line by line and answers each; `Client.stream` reads the
answers the same way. `dispatch` is a function of the number of answers before and of the
request: what it answers may depend on whatever else has happened in between. What follows a
`subscribe` is left out, and the daemon does not stop meanwhile.
-/

namespace TurboMac.Linux

open Protocol

/-! ## The server -/

/-- An exception of `dispatch`: a `KeyError`, `ValueError` or `TypeError` with its text, or
another with its `repr`. -/
inductive DispatchError where
  | expected (text : String)
  | other (repr : String)

def DispatchError.message : DispatchError → String
  | expected text => text
  | other repr => "internal error: " ++ repr

/-- What a connection asks of the daemon, the text of a `ValueError` of `decode`, and the levels
of lists and dictionaries that `decode` has left. -/
structure Dispatcher where
  dispatch : ℕ → String → Dict Json → Except DispatchError Json
  decodeError : List UInt8 → String
  levels : ℕ

/-- What a line comes to. -/
inductive Handled where
  | reply (message : Json)
  | subscribe (reqId : Json)
  | close (message : Json)
  /-- an exception that `_serve` does not catch -/
  | raised

def oversized : Json :=
  errorReply ("request exceeds " ++ toString maxRequest ++ " bytes") .null

/-- `req.get(key)`. -/
def Dict.getNull (d : Dict Json) (key : String) : Json := (d.lookup key).getD .null

/-- `req.get("args") or {}`. -/
def requestArgs (req : Dict Json) : Json :=
  if (req.getNull "args").truthy then req.getNull "args" else .obj []

namespace Dispatcher

variable (d : Dispatcher)

/-- What a request comes to, after some others. -/
def request (count : ℕ) (req : Dict Json) : Handled :=
  let reqId := req.getNull "id"
  match req.getNull "cmd", requestArgs req with
  | .str cmd, .obj args =>
    if cmd = "subscribe" then .subscribe reqId
    else
      match d.dispatch count cmd args with
      | .ok result => .reply (okReply result reqId)
      | .error error => .reply (errorReply error.message reqId)
  | _, _ => .reply (errorReply "cmd must be a string and args an object" reqId)

/-- A line of the connection. -/
def handle (count : ℕ) (line : List UInt8) : Handled :=
  if maxRequest < line.length ∨ line.getLast? ≠ some newline then .close oversized
  else
    match decode d.levels line with
    | .ok req => d.request count req
    | .error .value => .reply (errorReply ("bad request: " ++ d.decodeError line) .null)
    | .error .recursion => .raised

end Dispatcher

/-- Where a connection is. -/
inductive ConnPhase where
  | reading
  | subscribed (reqId : Json)
  | closed

/-- The messages sent, and where the connection is. -/
structure Conn where
  sent : List Json
  phase : ConnPhase

/-- How the input of a connection ends: the client closes it, or it times out. -/
inductive InputEnd where
  | eof
  | timeout

namespace Conn

def start : Conn := ⟨[], .reading⟩

/-- One turn of the loop of `_serve`. -/
def turn (d : Dispatcher) (c : Conn) (line : List UInt8) : Conn :=
  match c.phase with
  | .reading =>
    match d.handle c.sent.length line with
    | .reply message => { c with sent := c.sent ++ [message] }
    | .subscribe reqId => { c with phase := .subscribed reqId }
    | .close message => ⟨c.sent ++ [message], .closed⟩
    | .raised => { c with phase := .closed }
  | _ => c

/-- The end of the input, after which a line may be left over. -/
def finish (c : Conn) (rest : List UInt8) : InputEnd → Conn
  | .timeout =>
    match c.phase with
    | .reading => { c with phase := .closed }
    | _ => c
  | .eof =>
    match c.phase with
    | .reading => ⟨if rest = [] then c.sent else c.sent ++ [oversized], .closed⟩
    | _ => c

end Conn

/-- The lines of a request connection, cut like `readline(MAX_REQUEST + 1)`. -/
def requestLines : Scanner UInt8 (List UInt8) :=
  Lines.scanner newline (some (maxRequest + 1)) (by decide)

/-- `_serve`, of input that arrives in pieces. -/
def Conn.serve (d : Dispatcher) (pieces : List (List UInt8)) (ending : InputEnd) : Conn :=
  let read := pieces.foldl requestLines.feed ([], [])
  (read.1.foldl (Conn.turn d) .start).finish read.2 ending

/-! ## The client -/

/-- What `Client.stream` and `call` raise. -/
inductive ClientError where
  | json (error : JsonError)
  | «protocol» (text : Json)

/-- The lines of the answers: no limit. -/
def replyLines : Scanner UInt8 (List UInt8) := Lines.scanner newline none (by decide)

/-- What a line of `stream` comes to, with so many levels left. -/
def readReply (levels : ℕ) (line : List UInt8) : Except ClientError Json :=
  match decode levels line with
  | .error error => .error (.json error)
  | .ok msg =>
    if (msg.getNull "ok").truthy then .ok (msg.getNull "result")
    else .error (.«protocol» ((msg.lookup "error").getD (.str "request failed")))

/-- The lines a client reads until the server closes. -/
def readLines (pieces : List (List UInt8)) : List (List UInt8) :=
  let read := pieces.foldl replyLines.feed ([], [])
  read.1 ++ if read.2 = [] then [] else [read.2]

/-- `call`: what the first line comes to. -/
def clientCall (levels : ℕ) (pieces : List (List UInt8)) : Except ClientError Json :=
  match readLines pieces with
  | [] => .error (.«protocol» (.str "connection closed without a reply"))
  | line :: _ => readReply levels line

/-- What `stream` sends for a command. -/
def callRequest (cmd : String) (args : Dict Json) : Dict Json :=
  [("cmd", .str cmd), ("args", .obj args)]

/-! ## What is answered -/

section

variable {repr : ℚ → List Char} {levels : ℕ} {d : Dispatcher}

/-- Messages that are sent one after the other come out one by one. -/
theorem drain_encoded {limit : Option ℕ} (hlimit : limit ≠ some 0) {messages : List Json}
    (hmessages : ∀ message ∈ messages, message.Dumpable repr levels ∧
      ∀ n ∈ limit, (message.dumps repr).length < n) :
    (Lines.scanner newline limit hlimit).drain (messages.flatMap (encode repr)) =
      (messages.map (encode repr), []) := by
  have hencode : ∀ message ∈ messages, ∃ body, encode repr message = body ++ [newline] ∧
      newline ∉ body ∧ ∀ n ∈ limit, body.length < n := by
    intro message hmem
    obtain ⟨hdump, hshort⟩ := hmessages message hmem
    obtain ⟨body, heq, hbody, hlength⟩ := encode_eq hdump
    exact ⟨body, heq, hbody, fun n hn => hlength ▸ hshort n hn⟩
  have hdrop : ∀ message ∈ messages, (encode repr message).dropLast ++ [newline] = encode repr message := by
    intro message hmem
    obtain ⟨body, heq, -⟩ := hencode message hmem
    rw [heq, List.dropLast_concat]
  have hbodies := @Lines.drain_lines _ _ newline limit hlimit
    (messages.map fun message => (encode repr message).dropLast) (by
      intro body hbody
      obtain ⟨message, hmem, rfl⟩ := List.mem_map.1 hbody
      obtain ⟨body, heq, hnew, hshort⟩ := hencode message hmem
      rw [heq, List.dropLast_concat]
      exact ⟨hnew, hshort⟩)
  rw [List.flatMap_map, List.flatMap_congr hdrop, List.map_map] at hbodies
  rw [hbodies]
  exact congrArg (·, []) (List.map_congr_left hdrop)

theorem Dict.dumpable_getNull {members : Dict Json}
    (h : (Json.obj members).Dumpable repr (levels + 1)) (key : String) :
    (members.getNull key).Dumpable repr levels := by
  cases h with
  | obj hkeys hall =>
      unfold Dict.getNull
      cases hlookup : members.lookup key with
      | none => exact .null
      | some value =>
          obtain ⟨before, after, rfl, -⟩ := List.lookup_eq_some_iff.1 hlookup
          exact hall (key, value) (List.mem_append_right _ List.mem_cons_self)

/-- Whatever `dispatch` returns can be sent, with so many levels left in the reply. -/
def Dispatcher.Sends (d : Dispatcher) (repr : ℚ → List Char) (levels : ℕ) : Prop :=
  ∀ count cmd args result, d.dispatch count cmd args = .ok result → result.Dumpable repr levels

/-- A request that is no `subscribe` gets one reply, with its id. -/
theorem request_reply (hsends : d.Sends repr levels) {req : Dict Json}
    (h : (Json.obj req).Dumpable repr (levels + 1))
    (hcmd : ∀ s, req.getNull "cmd" = .str s → s ≠ "subscribe") (count : ℕ) :
    ∃ reply : Dict Json, d.request count req = .reply (.obj reply) ∧
      (Json.obj reply).Dumpable repr (levels + 1) ∧ reply.getNull "id" = req.getNull "id" := by
  have hid := Dict.dumpable_getNull h "id"
  unfold Dispatcher.request
  dsimp only
  split
  · rename_i cmd args heq _
    rw [if_neg (hcmd cmd heq)]
    split
    · rename_i result hresult
      exact ⟨_, rfl, dumpable_okReply (hsends _ _ _ _ hresult) hid, rfl⟩
    · exact ⟨_, rfl, dumpable_errorReply _ hid, rfl⟩
  · exact ⟨_, rfl, dumpable_errorReply _ hid, rfl⟩

/-- A request that can be sent to `_serve`, with so many levels left. -/
structure Sendable (repr : ℚ → List Char) (levels : ℕ) (req : Dict Json) : Prop where
  dumpable : (Json.obj req).Dumpable repr levels
  /-- with the newline -/
  size : ((Json.obj req).dumps repr).length < maxRequest
  cmd : ∀ s, req.getNull "cmd" = .str s → s ≠ "subscribe"

theorem handle_encode {req : Dict Json} (h : Sendable repr levels req) (hle : levels ≤ d.levels)
    (count : ℕ) : d.handle count (encode repr (.obj req)) = d.request count req := by
  obtain ⟨body, heq, -, hlength⟩ := encode_eq h.dumpable
  unfold Dispatcher.handle
  rw [if_neg, decode_encode (h.dumpable.mono hle)]
  have hsize := h.size
  rintro (hlong | hlast)
  · rw [heq, List.length_append, List.length_singleton] at hlong
    omega
  · rw [heq] at hlast
    exact hlast List.getLast?_concat

/-- What is sent for some requests. -/
theorem foldl_turn (hsends : d.Sends repr levels) (hlevels : levels < d.levels)
    {requests : List (Dict Json)} (hrequests : ∀ req ∈ requests, Sendable repr (levels + 1) req) :
    ∃ replies : List (Dict Json),
      (requests.map fun req => encode repr (.obj req)).foldl (Conn.turn d) .start =
        ⟨replies.map .obj, .reading⟩ ∧
      replies.length = requests.length ∧
      (∀ reply ∈ replies, (Json.obj reply).Dumpable repr (levels + 1)) ∧
      ∀ i req, requests[i]? = some req → ∃ reply : Dict Json, replies[i]? = some reply ∧
        d.request i req = .reply (.obj reply) ∧ reply.getNull "id" = req.getNull "id" := by
  induction requests using List.reverseRecOn with
  | nil => exact ⟨[], rfl, rfl, nofun, nofun⟩
  | append_singleton requests req ih =>
      obtain ⟨replies, hfold, hlength, hdump, hreplies⟩ :=
        ih fun req h => hrequests req (List.mem_append_left _ h)
      have hreq : Sendable repr (levels + 1) req := hrequests req (List.mem_append_right _ List.mem_cons_self)
      obtain ⟨reply, hreply, hdumpable, hid⟩ :=
        request_reply hsends hreq.dumpable hreq.cmd replies.length
      refine ⟨replies ++ [reply], ?_, ?_, ?_, ?_⟩
      · rw [List.map_append, List.foldl_append, hfold]
        show Conn.turn d ⟨replies.map .obj, .reading⟩ (encode repr (.obj req)) = _
        unfold Conn.turn
        dsimp only
        rw [List.length_map, handle_encode hreq hlevels, hreply, List.map_append]
        rfl
      · rw [List.length_append, List.length_append, hlength]
        rfl
      · intro reply' hmem
        rcases List.mem_append.1 hmem with hmem | hmem
        · exact hdump reply' hmem
        · rw [List.mem_singleton.1 hmem]
          exact hdumpable
      · intro i req' hget
        rcases Nat.lt_or_ge i requests.length with hlt | hge
        · rw [List.getElem?_append_left hlt] at hget
          obtain ⟨reply', hget', hrest⟩ := hreplies i req' hget
          exact ⟨reply', by rw [List.getElem?_append_left (hlength ▸ hlt), hget'], hrest⟩
        · rw [List.getElem?_append_right hge] at hget
          have hzero : i - requests.length = 0 := by
            by_contra hne
            obtain ⟨k, hk⟩ := Nat.exists_eq_succ_of_ne_zero hne
            rw [hk] at hget
            cases hget
          have hi : i = replies.length := by omega
          rw [hzero] at hget
          obtain rfl := Option.some.inj hget
          subst hi
          exact ⟨reply, List.getElem?_concat_length, hreply, hid⟩

/-- What a client reads of the messages that a server sends. -/
theorem readLines_encode {messages : List Json}
    (h : ∀ message ∈ messages, message.Dumpable repr levels) {pieces : List (List UInt8)} (hpieces : pieces.flatten = messages.flatMap (encode repr)) :
    readLines pieces = messages.map (encode repr) := by
  have hdrain : replyLines.drain (messages.flatMap (encode repr)) = (messages.map (encode repr), []) :=
    drain_encoded _ fun message hmem => ⟨h message hmem, nofun⟩
  unfold readLines
  rw [Scanner.feed_pieces, hpieces, hdrain]
  exact List.append_nil _

theorem serve_sent (hsends : d.Sends repr levels) (hlevels : levels < d.levels)
    {requests : List (Dict Json)} (hrequests : ∀ req ∈ requests, Sendable repr (levels + 1) req)
    {pieces : List (List UInt8)}
    (hpieces : pieces.flatten = requests.flatMap fun req => encode repr (.obj req)) (ending : InputEnd) :
    (Conn.serve d pieces ending).sent =
      ((requests.map fun req => encode repr (.obj req)).foldl (Conn.turn d) .start).sent := by
  have hdrain : requestLines.drain ((requests.map Json.obj).flatMap (encode repr)) =
      ((requests.map Json.obj).map (encode repr), []) := by
    apply drain_encoded
    intro message hmem
    obtain ⟨req, hreq, rfl⟩ := List.mem_map.1 hmem
    refine ⟨(hrequests req hreq).dumpable, ?_⟩
    intro n hn
    obtain rfl := Option.some.inj hn
    exact Nat.lt_succ_of_lt (hrequests req hreq).size
  rw [List.flatMap_map, List.map_map] at hdrain
  obtain ⟨replies, hfold, -⟩ := foldl_turn hsends hlevels hrequests
  unfold Conn.serve
  rw [Scanner.feed_pieces, hpieces, hdrain]
  dsimp only
  show (Conn.finish ((requests.map fun req => encode repr (.obj req)).foldl (Conn.turn d) .start) []
    ending).sent = _
  rw [hfold]
  cases ending <;> rfl

/-- What the client reads are the replies, one for each request. -/
theorem readLines_served (hsends : d.Sends repr levels) (hlevels : levels < d.levels)
    {requests : List (Dict Json)} (hrequests : ∀ req ∈ requests, Sendable repr (levels + 1) req)
    {sent received : List (List UInt8)}
    {ending : InputEnd}
    (hsent : sent.flatten = requests.flatMap fun req => encode repr (.obj req))
    (hreceived : received.flatten = (Conn.serve d sent ending).sent.flatMap (encode repr)) :
    ∃ replies : List (Dict Json),
      readLines received = (replies.map Json.obj).map (encode repr) ∧
      replies.length = requests.length ∧
      (∀ reply ∈ replies, (Json.obj reply).Dumpable repr (levels + 1)) ∧
      ∀ i req, requests[i]? = some req → ∃ reply : Dict Json, replies[i]? = some reply ∧
        d.request i req = .reply (.obj reply) ∧ reply.getNull "id" = req.getNull "id" := by
  obtain ⟨replies, hfold, hlength, hdump, hreplies⟩ := foldl_turn hsends hlevels hrequests
  have hserved : (Conn.serve d sent ending).sent = replies.map .obj := by
    rw [serve_sent hsends hlevels hrequests hsent, hfold]
  refine ⟨replies, ?_, hlength, hdump, hreplies⟩
  apply readLines_encode
  · intro message hmem
    obtain ⟨reply, hreply, rfl⟩ := List.mem_map.1 hmem
    exact hdump reply hreply
  · rw [hreceived, hserved]

end

/-- Requests that can be sent, one after the other on a connection, get one reply each, in their
order and with their ids, and the client reads what `dispatch` has returned for each, however
the bytes are cut on either way. -/
theorem conversation (repr : ℚ → List Char) (d : Dispatcher) (levels clientLevels : ℕ)
    (hlevels : levels < d.levels) (hclient : levels < clientLevels) (hsends : d.Sends repr levels)
    (requests : List (Dict Json)) (hrequests : ∀ req ∈ requests, Sendable repr (levels + 1) req)
    (sent received : List (List UInt8)) (ending : InputEnd)
    (hsent : sent.flatten = requests.flatMap fun req => encode repr (.obj req))
    (hreceived : received.flatten = (Conn.serve d sent ending).sent.flatMap (encode repr)) :
    (readLines received).length = requests.length ∧
    ∀ i req, requests[i]? = some req → ∃ reply : Dict Json,
      (readLines received)[i]?.map (decode clientLevels) = some (.ok reply) ∧
        d.request i req = .reply (.obj reply) ∧ reply.getNull "id" = req.getNull "id" := by
  obtain ⟨replies, hread, hlength, hdump, hreplies⟩ :=
    readLines_served hsends hlevels hrequests hsent hreceived
  rw [hread]
  refine ⟨by simp [hlength], ?_⟩
  intro i req hget
  obtain ⟨reply, hget', hrequest, hid⟩ := hreplies i req hget
  refine ⟨reply, ?_, hrequest, hid⟩
  have hdecode : decode clientLevels (encode repr (.obj reply)) = .ok reply :=
    decode_encode ((hdump reply (List.mem_of_getElem? hget')).mono hclient)
  rw [List.getElem?_map, List.getElem?_map, hget']
  exact congrArg some hdecode

/-- A daemon that only knows its input power. -/
def powerDispatcher : Dispatcher where
  dispatch _ cmd _ :=
    if cmd = "status" then .ok (.obj [("input_w", .float (61 / 2))])
    else .error (.expected ("unknown command '" ++ cmd ++ "'"))
  decodeError _ := "Expecting value: line 1 column 1 (char 0)"
  levels := 900

theorem powerDispatcher_sends : powerDispatcher.Sends (Decimal.ofRat 1) 1 := by
  intro count cmd args result h
  unfold powerDispatcher at h
  dsimp only at h
  split at h
  · cases h
    refine .obj (by simp) ?_
    intro member hmember
    rw [List.mem_singleton.1 hmember]
    exact .float (JsonText.writes_ofRat (by decide) (by decide +kernel) (by decide +kernel))
  · cases h

/-- A request without arguments. -/
def plainRequest (cmd : String) (reqId : ℤ) : Dict Json := [("cmd", .str cmd), ("id", .int reqId)]

theorem sendable_plainRequest {cmd : String} {reqId : ℤ} (hcmd : cmd ≠ "subscribe")
    (hshort : JsonText.Short reqId)
    (hsize : ((Json.obj (plainRequest cmd reqId)).dumps (Decimal.ofRat 1)).length < maxRequest) :
    Sendable (Decimal.ofRat 1) 2 (plainRequest cmd reqId) := by
  refine ⟨.obj (by simp [plainRequest]) ?_, hsize, ?_⟩
  · intro member hmember
    simp only [plainRequest, List.mem_cons, List.not_mem_nil, or_false] at hmember
    rcases hmember with rfl | rfl
    · exact .str cmd
    · exact .int hshort
  · intro s hs
    cases hs
    exact hcmd

def twoRequests : List (Dict Json) := [plainRequest "status" 7, plainRequest "reboot" 8]

/-- The bytes of the requests, one piece each. -/
def twoPieces : List (List UInt8) := twoRequests.map fun req => encode (Decimal.ofRat 1) (.obj req)

theorem conversation_twoRequests :
    (readLines [(Conn.serve powerDispatcher twoPieces .eof).sent.flatMap (encode (Decimal.ofRat 1))]).length = 2 ∧
    ∃ reply : Dict Json,
      (readLines [(Conn.serve powerDispatcher twoPieces .eof).sent.flatMap
        (encode (Decimal.ofRat 1))])[1]?.map (decode 900) = some (.ok reply) ∧
      reply.getNull "id" = .int 8 := by
  have hboth := conversation (Decimal.ofRat 1) powerDispatcher 1 900 (by decide) (by decide)
    powerDispatcher_sends twoRequests (by
      intro req hreq
      simp only [twoRequests, List.mem_cons, List.not_mem_nil, or_false] at hreq
      rcases hreq with rfl | rfl
      · exact sendable_plainRequest (by decide) (by decide) (by decide +kernel)
      · exact sendable_plainRequest (by decide) (by decide) (by decide +kernel))
    twoPieces [_] .eof (by rw [twoPieces, ← List.flatMap_def]) (List.flatten_singleton)
  obtain ⟨reply, hdecode, -, hid⟩ := hboth.2 1 _ rfl
  exact ⟨hboth.1, reply, hdecode, hid⟩

theorem requestArgs_call (cmd : String) (args : Dict Json) :
    requestArgs (callRequest cmd args) = .obj args := by
  have hargs : (callRequest cmd args).getNull "args" = .obj args := rfl
  unfold requestArgs
  rw [hargs]
  cases args with
  | nil => rfl
  | cons member args => rfl

/-- A call returns what `dispatch` has returned for it, or raises its text. -/
theorem call_dispatch (repr : ℚ → List Char) (d : Dispatcher) (levels clientLevels : ℕ)
    (hlevels : levels < d.levels) (hclient : levels < clientLevels) (hsends : d.Sends repr levels)
    (cmd : String) (args : Dict Json) (hcmd : cmd ≠ "subscribe")
    (hargs : (Json.obj args).Dumpable repr levels)
    (hsize : ((Json.obj (callRequest cmd args)).dumps repr).length < maxRequest)
    (sent received : List (List UInt8)) (ending : InputEnd)
    (hsent : sent.flatten = encode repr (.obj (callRequest cmd args)))
    (hreceived : received.flatten = (Conn.serve d sent ending).sent.flatMap (encode repr)) :
    clientCall clientLevels received = (d.dispatch 0 cmd args).mapError fun e => .«protocol» (.str e.message) := by
  have hrequest : Sendable repr (levels + 1) (callRequest cmd args) := by
    refine ⟨.obj (by simp [callRequest]) ?_, hsize, ?_⟩
    · intro member hmember
      simp only [callRequest, List.mem_cons, List.not_mem_nil, or_false] at hmember
      rcases hmember with rfl | rfl
      · exact .str cmd
      · exact hargs
    · intro s hs
      cases hs
      exact hcmd
  obtain ⟨replies, hread, hlength, hdump, hreplies⟩ := readLines_served hsends hlevels
    (fun req h => List.mem_singleton.1 h ▸ hrequest) (by rw [hsent, List.flatMap_singleton]) hreceived
  obtain ⟨reply, hget, hreply, -⟩ := hreplies 0 _ rfl
  obtain ⟨reply', rfl⟩ := List.length_eq_one_iff.1 hlength
  obtain rfl := Option.some.inj hget
  have hline : readLines received = [encode repr (.obj reply')] := hread
  have hline' : decode clientLevels (encode repr (.obj reply')) = .ok reply' :=
    decode_encode ((hdump reply' List.mem_cons_self).mono hclient)
  have hname : (callRequest cmd args).getNull "cmd" = .str cmd := rfl
  unfold Dispatcher.request at hreply
  rw [hname, requestArgs_call] at hreply
  dsimp only at hreply
  rw [if_neg hcmd] at hreply
  unfold clientCall readReply
  rw [hline]
  dsimp only
  rw [hline']
  cases hresult : d.dispatch 0 cmd args with
  | ok result =>
      rw [hresult] at hreply
      cases hreply
      rfl
  | error error =>
      rw [hresult] at hreply
      cases hreply
      rfl

theorem call_dispatch_reboot :
    clientCall 900 [(Conn.serve powerDispatcher [encode (Decimal.ofRat 1) (.obj (callRequest "reboot" []))]
        .eof).sent.flatMap (encode (Decimal.ofRat 1))] =
      .error (.«protocol» (.str "unknown command 'reboot'")) :=
  call_dispatch (Decimal.ofRat 1) powerDispatcher 1 900 (by decide) (by decide)
    powerDispatcher_sends "reboot" [] (by decide) (.obj List.nodup_nil nofun) (by decide +kernel) [_] [_] .eof List.flatten_singleton
    List.flatten_singleton

end TurboMac.Linux
