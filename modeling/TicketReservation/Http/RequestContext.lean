/-
  Every response carries the id of its request.

  The middleware passes the messages of the application on one by one and puts
  the id in the headers of the start; an exception before the start is answered
  in the application's place, one after it is raised again.

  * `exec_call`: what a call passes on, how it ends and what it logs;
  * `request_context`: what the client, the server and the log see, for any
    application that keeps the order of its messages.
-/
import TicketReservation.Http.Middleware

namespace TicketReservation.Http

open Effects

/-! ## What a call does -/

/-- The message as `send_with_request_id` passes it on. -/
def Message.stamp (starlette : Starlette) (requestId : String) : Message → Message
  | .start status headers => .start status (starlette.setItem headers REQUEST_ID_HEADER requestId)
  | message => message

/-- The world after messages were passed on. -/
def World.pass (starlette : Starlette) (requestId : String) (w : World) (ms : List Message) : World :=
  { w with
    responseStarted := w.responseStarted || ms.any Message.isStart
    statusCode := (ms.filterMap Message.status).getLast?.getD w.statusCode
    sent := w.sent ++ ms.map (Message.stamp starlette requestId) }

/-- An application sends at most one `http.response.start`, before any body. -/
structure Ran.Proper (ran : Ran) : Prop where
  oneStart : (ran.sent.filter Message.isStart).length ≤ 1
  startFirst : ∀ before body more after, ran.sent = before ++ .body body more :: after →
    ∃ m ∈ before, m.isStart

theorem Ran.Proper.of_nil {ran : Ran} (h : ran.sent = []) : ran.Proper where
  oneStart := by simp [h]
  startFirst := by simp [h]

/-- A start and then messages that are none. -/
theorem Ran.Proper.of_cons {ran : Ran} {status : ℕ} {headers : List Header} {rest : List Message}
    (h : ran.sent = .start status headers :: rest) (hrest : ∀ m ∈ rest, ¬ m.isStart) :
    ran.Proper where
  oneStart := by
    have hnone : rest.filter Message.isStart = [] := List.filter_eq_nil_iff.2 hrest
    rw [h, List.filter_cons_of_pos rfl, hnone]
    rfl
  startFirst := by
    intro before body more after heq
    rw [h] at heq
    cases before with
    | nil => cases heq
    | cons m before =>
      obtain ⟨rfl, -⟩ := List.cons.inj heq
      exact ⟨_, List.mem_cons_self, rfl⟩

section
variable {starlette : Starlette} {id : String} {ms : List Message} {w : World}

theorem isStart_stamp (m : Message) : (m.stamp starlette id).isStart = m.isStart := by
  cases m <;> rfl

theorem status_stamp (m : Message) : (m.stamp starlette id).status = m.status := by
  cases m <;> rfl

theorem foldl_pass (ms : List Message) (w : World) :
    (ms.foldl (fun w m => w.pass starlette id [m]) w) = w.pass starlette id ms := by
  induction ms generalizing w with
  | nil => simp [World.pass]
  | cons m ms ih =>
    rw [List.foldl_cons, ih]
    simp only [World.pass, List.any_cons, List.any_nil, Bool.or_false, Bool.or_assoc, List.map_cons,
      List.map_nil, List.append_assoc, List.singleton_append, World.mk.injEq, true_and, and_true]
    cases m with
    | start status headers => simp [Message.status, List.getLast?_cons]
    | body | extension => rfl

namespace RequestContextMiddleware

theorem exec_sendWithRequestId (w : World) (m : Message) :
    exec (sendWithRequestId starlette id m) w = (.ok (), w.pass starlette id [m]) := by
  cases m with
  | start status headers =>
    rw [sendWithRequestId, exec_bind_ok (exec_modify _ _), send, exec_modify]
    simp [World.pass, Message.isStart, Message.status, Message.stamp]
  | body | extension =>
    rw [sendWithRequestId, send, exec_modify]
    · simp [World.pass, Message.isStart, Message.status, Message.stamp]
    · rintro _ _ ⟨⟩

theorem exec_forM_send (ms : List Message) (w : World) :
    exec (ms.forM (sendWithRequestId starlette id)) w = (.ok (), w.pass starlette id ms) := by
  rw [exec_forM exec_sendWithRequestId, foldl_pass]

/-- **The application's messages are passed on**, and it ends as it ends. -/
theorem exec_app (starlette : Starlette) (id : String) (app : ASGIApp) (scope : Scope) (w : World) :
    exec (app.call scope (sendWithRequestId starlette id)) w =
      ((app scope w.context).result,
        { w.pass starlette id (app scope w.context).sent with
          context := (app scope w.context).context }) := by
  rw [ASGIApp.call, exec_bind_ok (exec_get w), exec_bind_ok (exec_forM_send _ _),
    exec_bind_ok (exec_modify _ _)]
  cases (app scope w.context).result <;> rfl

/-- What the handler does when the application has run. -/
theorem exec_onException (scope : Scope) (e : Raised) (w : World) :
    exec (onException starlette scope id e) w = match e with
      | .baseException exc => (.error (.baseException exc), w)
      | .exception exc =>
        let w := { w with logs := w.logs ++ [exceptionRecord scope id] }
        if w.responseStarted then (.error (.exception exc), w)
        else (.ok (), w.pass starlette id (starlette.jsonResponse 500 (internalServerError id) [])) := by
  cases e with
  | baseException exc => rfl
  | exception exc =>
    rw [onException, log, exec_bind_ok (exec_modify _ _), exec_bind_ok (exec_get _)]
    dsimp only
    split_ifs
    · rfl
    · exact exec_forM_send _ _

theorem exec_onExit (scope : Scope) (token : Option String) (w : World) :
    exec (onExit scope id token) w = (.ok (),
      { w with logs := w.logs ++ [completedRecord scope id w.statusCode], context := token }) := rfl

/-- The call of the application. -/
def ran (starlette : Starlette) (uuid4 : UUID) (app : ASGIApp) (scope : Scope) : Ran :=
  app { scope with state := some { requestId := some (requestId starlette uuid4 scope) } }
    (some (requestId starlette uuid4 scope))

/-- The messages that the middleware passes on. -/
def passed (starlette : Starlette) (id : String) (r : Ran) : List Message :=
  match r.result with
  | .error (.exception _) =>
    if r.sent.any Message.isStart then r.sent
    else r.sent ++ starlette.jsonResponse 500 (internalServerError id) []
  | _ => r.sent

/-- How the call ends. -/
def ending (r : Ran) : Except Raised Unit :=
  match r.result with
  | .error (.exception exc) =>
    if r.sent.any Message.isStart then .error (.exception exc) else .ok ()
  | result => result

/-- The records of exceptions. -/
def exceptions (scope : Scope) (id : String) (r : Ran) : List LogRecord :=
  match r.result with
  | .error (.exception _) => [exceptionRecord scope id]
  | _ => []

theorem pass_pass (w : World) (ms ms' : List Message) :
    (w.pass starlette id ms).pass starlette id ms' = w.pass starlette id (ms ++ ms') := by
  rw [← foldl_pass, ← foldl_pass, ← foldl_pass, List.foldl_append]

/-- The `try` statement without its `finally`. -/
theorem exec_try {app : ASGIApp} {scope : Scope} {r : Ran} (h : app scope (some id) = r) :
    exec (tryCatch (app.call scope (sendWithRequestId starlette id)) (onException starlette scope id))
      { context := some id } = (ending r,
        { World.pass starlette id { context := r.context } (passed starlette id r) with
          logs := exceptions scope id r }) := by
  have happ := exec_app starlette id app scope { context := some id }
  rw [h] at happ
  unfold ending passed exceptions
  rcases hr : r.result with e | ⟨⟨⟩⟩
  · rw [hr] at happ
    rw [exec_tryCatch_error happ, exec_onException]
    cases e with
    | baseException exc => rfl
    | exception exc =>
      show (if r.sent.any Message.isStart then _ else _) = _
      split_ifs
      · rfl
      · rw [← pass_pass]
        rfl
  · rw [hr] at happ
    exact exec_tryCatch_ok happ

theorem exec_call {uuid4 : UUID} {app : ASGIApp} {scope : Scope} (http : scope.type = "http")
    (context : Option String) :
    exec (call starlette uuid4 app scope) { context := context } =
      (ending (ran starlette uuid4 app scope),
        let id := requestId starlette uuid4 scope
        let ran := ran starlette uuid4 app scope
        let w := World.pass starlette id { context := context } (passed starlette id ran)
        { w with logs := exceptions scope id ran ++ [completedRecord scope id w.statusCode] }) := by
  rw [call, if_neg (not_not.2 http)]
  exact exec_tryFinally_ok (exec_try rfl) (exec_onExit _ _ _)

/-- The messages that the client receives. -/
theorem sent_call {uuid4 : UUID} {app : ASGIApp} {scope : Scope} (http : scope.type = "http")
    (context : Option String) :
    (exec (call starlette uuid4 app scope) { context := context }).2.sent =
      (passed starlette (requestId starlette uuid4 scope) (ran starlette uuid4 app scope)).map
        (Message.stamp starlette (requestId starlette uuid4 scope)) := by
  rw [exec_call http]
  exact List.nil_append _

theorem latin1_strUUID (uuid : UUID) : Latin1 (strUUID uuid) := by
  have hdigit : ∀ n < 16, (Nat.digitChar n).toNat < 256 := by decide
  have hhex : ∀ c ∈ hexDigits uuid, c.toNat < 256 := by
    intro c hc
    obtain ⟨i, -, rfl⟩ := List.mem_map.1 hc
    exact hdigit _ (Nat.mod_lt _ (by decide))
  have hgroup : ∀ i n, ∀ c ∈ ((hexDigits uuid).drop i).take n, c.toNat < 256 := fun i n c hc =>
    hhex c (List.mem_of_mem_drop (List.mem_of_mem_take hc))
  simp only [Latin1, strUUID, String.toList_ofList, List.forall_mem_append, List.forall_mem_cons,
    List.append_assoc, List.cons_append]
  exact ⟨hgroup 0 8, by decide, hgroup 8 4, by decide, hgroup 12 4, by decide, hgroup 16 4, by decide,
    fun c hc => hhex c (List.mem_of_mem_drop hc)⟩

theorem strUUID_ne_empty (uuid : UUID) : strUUID uuid ≠ "" := by
  intro h
  have := congrArg String.toList h
  simp [strUUID] at this

theorem decodeLatin1_ne_empty {value : Bytes} (h : value ≠ []) : decodeLatin1 value ≠ "" := by
  simpa [decodeLatin1] using h

theorem orElse_some {value : String} (h : value ≠ "") (default : String) :
    orElse (some value) default = value := by
  rw [orElse]
  exact h

theorem requestId_given {uuid4 : UUID} {scope : Scope} {value : Bytes} {rest : List Bytes}
    (h : values REQUEST_ID_HEADER scope.headers = value :: rest) (hne : value ≠ []) :
    requestId starlette uuid4 scope = decodeLatin1 value := by
  rw [requestId, starlette.get_eq _ _ (by decide), h, List.head?_cons, Option.map_some,
    orElse_some (decodeLatin1_ne_empty hne)]

theorem requestId_drawn {uuid4 : UUID} {scope : Scope}
    (h : ∀ value ∈ (values REQUEST_ID_HEADER scope.headers).head?, value = []) :
    requestId starlette uuid4 scope = strUUID uuid4 := by
  rw [requestId, starlette.get_eq _ _ (by decide)]
  cases hv : (values REQUEST_ID_HEADER scope.headers).head? with
  | none => rfl
  | some value =>
    rw [h value hv]
    rfl

/-- Where the id comes from. -/
theorem requestId_cases (starlette : Starlette) (uuid4 : UUID) (scope : Scope) :
    requestId starlette uuid4 scope = strUUID uuid4 ∨
      ∃ value ≠ [], requestId starlette uuid4 scope = decodeLatin1 value := by
  by_cases h : ∀ value ∈ (values REQUEST_ID_HEADER scope.headers).head?, value = []
  · exact Or.inl (requestId_drawn h)
  · push Not at h
    obtain ⟨value, hv, hne⟩ := h
    obtain ⟨rest, hrest⟩ := List.head?_eq_some_iff.1 hv
    exact Or.inr ⟨value, hne, requestId_given hrest hne⟩

theorem latin1_requestId (starlette : Starlette) (uuid4 : UUID) (scope : Scope) :
    Latin1 (requestId starlette uuid4 scope) := by
  rcases requestId_cases starlette uuid4 scope with h | ⟨value, -, h⟩
  · rw [h]
    exact latin1_strUUID uuid4
  · rw [h]
    exact latin1_decodeLatin1 value

theorem requestId_ne_empty (starlette : Starlette) (uuid4 : UUID) (scope : Scope) :
    requestId starlette uuid4 scope ≠ "" := by
  rcases requestId_cases starlette uuid4 scope with h | ⟨value, hne, h⟩
  · rw [h]
    exact strUUID_ne_empty uuid4
  · rw [h]
    exact decodeLatin1_ne_empty hne

/-! ## What is passed on -/

theorem filter_isStart_stamp (ms : List Message) :
    ((ms.map (Message.stamp starlette id)).filter Message.isStart).length =
      (ms.filter Message.isStart).length := by
  rw [List.filter_map, List.length_map]
  exact congrArg List.length (List.filter_congr fun m _ => isStart_stamp m)

theorem findSome?_stamp (ms : List Message) :
    (ms.map (Message.stamp starlette id)).findSome? Message.status = ms.findSome? Message.status := by
  rw [List.findSome?_map]
  exact congrArg (List.findSome? · ms) (funext status_stamp)

/-- The messages of extensions are passed on as they are. -/
theorem map_stamp_of_extension (h : ∀ m ∈ ms, m.isExtension) :
    ms.map (Message.stamp starlette id) = ms := by
  have hmap : ms.map (Message.stamp starlette id) = ms.map fun m => m :=
    List.map_congr_left fun m hm => by
      have := h m hm
      cases m with
      | start | body => cases this
      | extension => rfl
  rw [hmap, List.map_id']

/-- With one start, the last status is the first. -/
theorem getLast?_status (h : (ms.filter Message.isStart).length ≤ 1) :
    (ms.filterMap Message.status).getLast? = ms.findSome? Message.status := by
  have hlen : (ms.filterMap Message.status).length = (ms.filter Message.isStart).length := by
    rw [List.length_filterMap_eq_countP, List.countP_eq_length_filter]
    exact congrArg List.length (List.filter_congr fun m _ => by cases m <;> rfl)
  rw [← hlen] at h
  rw [← List.head?_filterMap]
  generalize ms.filterMap Message.status = statuses at h ⊢
  rcases statuses with _ | ⟨status, _ | ⟨status', rest⟩⟩
  · rfl
  · rfl
  · simp at h

theorem values_stamp (hid : Latin1 id) {m : Message} {status : ℕ} {headers : List Header}
    (h : m.stamp starlette id = .start status headers) :
    (values REQUEST_ID_HEADER headers).map decodeLatin1 = [id] := by
  have hbytes : encodeLatin1 id = some _ := if_pos hid
  cases m with
  | start status' own =>
    obtain ⟨-, rfl⟩ := Message.start.inj h
    rw [starlette.values_setItem _ _ _ _ (by decide) hbytes, List.map_singleton,
      decodeLatin1_of_encodeLatin1 hbytes]
  | body | extension => cases h

theorem passed_of_start {r : Ran} (h : ∃ m ∈ r.sent, m.isStart) :
    passed starlette id r = r.sent := by
  unfold passed
  split
  · rw [if_pos (List.any_eq_true.2 h)]
  · rfl

theorem passed_of_ok {r : Ran} (h : r.result = .ok ()) : passed starlette id r = r.sent := by
  rw [passed, h]

/-- An exception before the start is answered. -/
theorem passed_of_noStart (starlette : Starlette) (id : String) {r : Ran} {exc : String}
    (hr : r.result = .error (.exception exc)) (h : ∀ m ∈ r.sent, ¬ m.isStart) :
    ∃ raw, passed starlette id r = r.sent ++
      [.start 500 raw, .body (encodeUtf8 (internalServerError id).dumps) false] := by
  obtain ⟨raw, hraw⟩ := starlette.jsonResponse_eq 500 (internalServerError id) [] (by simp)
  refine ⟨raw, ?_⟩
  rw [passed, hr]
  dsimp only
  rw [if_neg (by simpa using h), hraw]

/-- Before the start there are no bodies. -/
theorem extension_of_noStart {r : Ran} (hr : r.Proper) (h : ∀ m ∈ r.sent, ¬ m.isStart) :
    ∀ m ∈ r.sent, m.isExtension := by
  intro m hm
  cases m with
  | start status headers => exact absurd rfl (h _ hm)
  | body body more =>
    obtain ⟨before, after, heq⟩ := List.append_of_mem hm
    obtain ⟨m, hm, hstart⟩ := hr.startFirst before body more after heq
    exact absurd hstart (h m (heq ▸ List.mem_append_left _ hm))
  | extension type other => rfl

theorem oneStart_passed (starlette : Starlette) (id : String) {r : Ran} (hr : r.Proper) :
    ((passed starlette id r).filter Message.isStart).length ≤ 1 := by
  by_cases hstart : ∃ m ∈ r.sent, m.isStart
  · rw [passed_of_start hstart]
    exact hr.oneStart
  · have hnone : ∀ m ∈ r.sent, ¬ m.isStart := fun m hm hs => hstart ⟨m, hm, hs⟩
    rcases hres : r.result with (exc | exc) | ⟨⟨⟩⟩
    · obtain ⟨raw, hraw⟩ := passed_of_noStart starlette id hres hnone
      rw [hraw, List.filter_append, List.filter_eq_nil_iff.2 hnone]
      rfl
    · rw [passed, hres]
      exact hr.oneStart
    · rw [passed_of_ok hres]
      exact hr.oneStart

/-- Only the record of the completed request has a status. -/
theorem statusCode_exceptions {scope : Scope} {r : Ran} :
    ∀ record ∈ exceptions scope id r, record.statusCode = none := by
  unfold exceptions
  split
  · exact List.forall_mem_singleton.2 rfl
  · exact List.forall_mem_nil _

/-- **What the middleware does with a request** with the id `id`, whose application has run. -/
structure Carried (starlette : Starlette) (uuid4 : UUID) (scope : Scope) (context : Option String)
    (id : String) (ran : Ran) (result : Except Raised Unit) (w : World) : Prop where
  /-- a header that is not empty gives the id -/
  given : ∀ value rest, values REQUEST_ID_HEADER scope.headers = value :: rest → value ≠ [] →
    id = decodeLatin1 value
  drawn : (∀ value ∈ (values REQUEST_ID_HEADER scope.headers).head?, value = []) → id = strUUID uuid4
  oneStart : (w.sent.filter Message.isStart).length ≤ 1
  /-- the only value of the header is the id -/
  carriesId : ∀ status headers, .start status headers ∈ w.sent →
    (values REQUEST_ID_HEADER headers).map decodeLatin1 = [id]
  returned : ran.result = .ok () →
    result = .ok () ∧ w.sent = ran.sent.map (Message.stamp starlette id)
  /-- an exception before the start is answered -/
  replaced : ∀ exc, ran.result = .error (.exception exc) → (∀ m ∈ ran.sent, ¬ m.isStart) →
    result = .ok () ∧ (∀ m ∈ ran.sent, m.isExtension) ∧ ∃ headers body,
      w.sent = ran.sent ++ [.start 500 headers, .body body false] ∧ errorRequestId body = some id
  /-- an exception after the start is raised again -/
  reraised : ∀ exc, ran.result = .error (.exception exc) → (∃ m ∈ ran.sent, m.isStart) →
    result = .error (.exception exc) ∧ w.sent = ran.sent.map (Message.stamp starlette id)
  /-- the status of the response is the only one in the log -/
  logged : ∃ records, w.logs =
      records ++ [completedRecord scope id ((w.sent.findSome? Message.status).getD 500)] ∧
    ∀ record ∈ records, record.statusCode = none
  restored : w.context = context

/-- **Every response carries the id of its request**, wherever the application fails. -/
theorem request_context (starlette : Starlette) (uuid4 : UUID) (app : ASGIApp) (scope : Scope)
    (context : Option String) (http : scope.type = "http")
    (h : (ran starlette uuid4 app scope).Proper) :
    Carried starlette uuid4 scope context (requestId starlette uuid4 scope)
      (ran starlette uuid4 app scope)
      (exec (call starlette uuid4 app scope) { context := context }).1
      (exec (call starlette uuid4 app scope) { context := context }).2 := by
  have hid := latin1_requestId starlette uuid4 scope
  have hone := oneStart_passed starlette (requestId starlette uuid4 scope) h
  rw [exec_call http]
  dsimp only [World.pass]
  rw [List.nil_append]
  exact
    { given := fun value rest => requestId_given
      drawn := requestId_drawn
      oneStart := by rwa [filter_isStart_stamp]
      carriesId := fun status headers hm => by
        obtain ⟨m, -, heq⟩ := List.mem_map.1 hm
        exact values_stamp hid heq
      returned := fun hok => by
        rw [passed_of_ok hok, ending, hok]
        exact ⟨rfl, rfl⟩
      replaced := fun exc hexc hnone => by
        obtain ⟨raw, hraw⟩ :=
          passed_of_noStart starlette (requestId starlette uuid4 scope) hexc hnone
        have hext := extension_of_noStart h hnone
        rw [hraw, List.map_append, map_stamp_of_extension hext, ending, hexc]
        refine ⟨if_neg (by simpa using hnone), hext, _, _, rfl, ?_⟩
        exact errorRequestId_errorContent _ _ _
      reraised := fun exc hexc hstart => by
        rw [passed_of_start hstart, ending, hexc]
        exact ⟨if_pos (List.any_eq_true.2 hstart), rfl⟩
      logged := by
        rw [getLast?_status hone, findSome?_stamp]
        exact ⟨_, rfl, statusCode_exceptions⟩
      restored := rfl }

end RequestContextMiddleware

end

namespace Sample

/-- Replace the first header with the name and drop the others, or append it. -/
def put (key : String) (row : Header) : List Header → List Header
  | [] => [row]
  | h :: headers =>
    if h.named key then row :: headers.filter fun h => !h.named key else h :: put key row headers

theorem values_put {key : String} {row : Header} (hrow : row.named key) (headers : List Header) :
    values key (put key row headers) = [row.value] := by
  induction headers with
  | nil => simp [put, values, hrow]
  | cons h headers ih =>
    rw [put]
    split_ifs with hnamed
    · simp [values, hrow, List.filter_filter]
    · rw [values, List.filter_cons_of_neg hnamed]
      exact ih

def lowerName (key : String) : Bytes := key.toList.map fun c => UInt8.ofNat c.toLower.toNat

theorem named_lowerName {key : String} (h : Ascii key) (value : Bytes) :
    Header.named key ⟨lowerName key, value⟩ := by
  have hlower : ∀ n < 128, (Char.ofNat (UInt8.ofNat (Char.ofNat n).toLower.toNat).toNat).toLower =
      (Char.ofNat n).toLower := by decide
  rw [Header.named, decide_eq_true_eq, lowerName, List.map_map]
  refine List.map_congr_left fun c hc => ?_
  have := hlower c.toNat (h c hc)
  rwa [Char.ofNat_toNat] at this

def starlette : Starlette where
  get headers key := (values key headers).head?.map decodeLatin1
  setItem headers key value := put key ⟨lowerName key, (encodeLatin1 value).getD []⟩ headers
  jsonResponse statusCode content headers :=
    let body := encodeUtf8 content.dumps
    let own := headers.map fun h => ⟨lowerName h.1, (encodeLatin1 h.2).getD []⟩
    [.start statusCode (own ++ [⟨encodeUtf8 "content-length", encodeUtf8 (toString body.length)⟩,
      ⟨encodeUtf8 "content-type", encodeUtf8 "application/json"⟩]), .body body false]
  get_eq _ _ _ := rfl
  values_setItem headers key value bytes hkey hbytes := by
    rw [values_put (named_lowerName hkey _), hbytes, Option.getD_some]
  jsonResponse_eq _ _ _ _ := ⟨_, rfl⟩

def request : Scope where
  type := "http"
  method := "GET"
  path := "/health"
  headers := [⟨lowerName REQUEST_ID_HEADER, encodeUtf8 "client-1"⟩]

/-- It fails before its start. -/
def failingEarly : ASGIApp := fun _ context => ⟨[], .error (.exception "RuntimeError"), context⟩

/-- It sets the header itself and fails after its start. -/
def failingLate : ASGIApp := fun _ _ =>
  { sent := [.start 200 [⟨lowerName REQUEST_ID_HEADER, encodeUtf8 "own"⟩], .body [] true]
    result := .error (.exception "RuntimeError")
    context := some "own" }

end Sample

namespace RequestContextMiddleware

theorem request_context_failing :
    Carried Sample.starlette 7 Sample.request none (requestId Sample.starlette 7 Sample.request)
      (ran Sample.starlette 7 Sample.failingEarly Sample.request)
      (exec (call Sample.starlette 7 Sample.failingEarly Sample.request) { context := none }).1
      (exec (call Sample.starlette 7 Sample.failingEarly Sample.request) { context := none }).2 ∧
    Carried Sample.starlette 7 Sample.request none (requestId Sample.starlette 7 Sample.request)
      (ran Sample.starlette 7 Sample.failingLate Sample.request)
      (exec (call Sample.starlette 7 Sample.failingLate Sample.request) { context := none }).1
      (exec (call Sample.starlette 7 Sample.failingLate Sample.request) { context := none }).2 :=
  ⟨request_context _ _ _ _ _ rfl (.of_nil rfl),
    request_context _ _ _ _ _ rfl (.of_cons rfl (by decide))⟩

end RequestContextMiddleware

end TicketReservation.Http
