/-
  The log of the service (core/logging.py) under concurrent requests.

  The root handler writes one line for each record that reaches the level of the
  configuration.  The records of requests that are served at the same time come
  in any order of their lines, and between them those of other loggers.

  * `log_of_requests`: the lines are read back, field by field, one for each
    record; the lines of a request are found by its id, and they tell the exception
    and the status that the client has seen; no text of any request adds, hides or
    changes a line.
-/
import TicketReservation.Http.JsonLines
import TicketReservation.Http.RequestContext

namespace TicketReservation.Http

open Effects JsonLines

/-! ## Records -/

inductive Level where
  | debug | info | warning | error | critical
  deriving DecidableEq, Repr

def Level.levelno : Level → ℕ
  | debug => 10
  | info => 20
  | warning => 30
  | error => 40
  | critical => 50

def Level.levelname : Level → String
  | debug => "DEBUG"
  | info => "INFO"
  | warning => "WARNING"
  | error => "ERROR"
  | critical => "CRITICAL"

/-- A record of `logging`, with the attributes that the formatter looks at: `message` is
    `getMessage()`, `exception` the text of `exc_info`. -/
structure Record where
  level : Level
  name : String
  message : String
  requestId : Option String := none
  method : Option String := none
  path : Option String := none
  statusCode : Option ℕ := none
  durationMs : Option NumberText := none
  exception : Option String := none
  deriving DecidableEq, Repr

/-- A record where it is formatted: the time, and the value of the context variable. -/
structure Emitted where
  now : String
  context : Option String
  record : Record
  deriving DecidableEq, Repr

namespace JsonFormatter

/-- `getattr(record, "request_id", None) or get_request_id()`. -/
def requestId (e : Emitted) : Option String :=
  match e.record.requestId with
  | none | some "" => e.context
  | some requestId => some requestId

/-- A field, if it has a value. -/
def optional (key : String) (value : Option Scalar) : Fields :=
  (value.map fun v => (key, v)).toList

def payload (e : Emitted) : Fields :=
  [("timestamp", .str e.now), ("level", .str e.record.level.levelname),
    ("logger", .str e.record.name), ("message", .str e.record.message)] ++
  optional "request_id" ((requestId e).map .str) ++ optional "method" (e.record.method.map .str) ++
  optional "path" (e.record.path.map .str) ++
  optional "status_code" (e.record.statusCode.map fun n => .num (.ofNat n)) ++
  optional "duration_ms" (e.record.durationMs.map .num) ++
  optional "exception" (e.record.exception.map .str)

def format (e : Emitted) : List Char := writeObject (payload e)

end JsonFormatter

/-- The level of `configure_logging` lets the record pass. -/
def Emitted.reaches (level : Level) (e : Emitted) : Bool := level.levelno ≤ e.record.level.levelno

/-- What the handler of the root logger writes to the standard output. -/
def stdout (level : Level) (es : List Emitted) : List Char :=
  (es.filter (·.reaches level)).flatMap fun e => JsonFormatter.format e ++ ['\n']

/-- The objects of the log: one for each record that reaches the level, in their order. -/
def logLines (level : Level) (es : List Emitted) : List Fields :=
  (es.filter (·.reaches level)).map JsonFormatter.payload

/-! ## Requests -/

/-- A request, and what its log tells besides: the times and the context of its records, its
    duration and the traceback of an exception. -/
structure Exchange where
  uuid4 : UUID
  app : ASGIApp
  scope : Scope
  http : scope.type = "http"
  now : ℕ → String
  context : ℕ → Option String
  durationMs : NumberText
  traceback : String

namespace Exchange
variable (starlette : Starlette) (x : Exchange)

/-- The record of `logger.exception`, and that of `logger.info`, which tells the status. -/
def record (r : LogRecord) : Record :=
  match r.statusCode with
  | none =>
    { level := .error, name := "app.http", message := r.message, requestId := some r.requestId,
      method := some r.method, path := some r.path, exception := some x.traceback }
  | some status =>
    { level := .info, name := "app.http", message := r.message, requestId := some r.requestId,
      method := some r.method, path := some r.path, statusCode := some status,
      durationMs := some x.durationMs }

/-- What the middleware does with the request. -/
def world : World :=
  (exec (RequestContextMiddleware.call starlette x.uuid4 x.app x.scope) { context := none }).2

/-- The records of the request, one after another. -/
def emitted : List Emitted :=
  (x.world starlette).logs.mapIdx fun n r => ⟨x.now n, x.context n, x.record r⟩

def requestId : String := RequestContextMiddleware.requestId starlette x.uuid4 x.scope

/-- The status that the client has seen, 500 before any. -/
def status : ℕ := ((x.world starlette).sent.filterMap Message.status).getLast?.getD 500

/-- The application ends with an exception. -/
def raises : Bool :=
  match (RequestContextMiddleware.ran starlette x.uuid4 x.app x.scope).result with
  | .error (.exception _) => true
  | _ => false

end Exchange

/-- **The requests are served at the same time**: their records come in their orders, and records
    of other loggers between them. -/
structure Interleaved (starlette : Starlette) (xs : List Exchange)
    (es : List (Option ℕ × Emitted)) : Prop where
  own : ∀ i x, xs[i]? = some x →
    (es.filter fun e => e.1 = some i).map Prod.snd = x.emitted starlette
  others : ∀ e ∈ es, (∃ i < xs.length, e.1 = some i) ∨ (e.1 = none ∧ e.2.record.name ≠ "app.http")

/-- The line is one of the middleware about this request. -/
def about (id : String) (line : Fields) : Bool :=
  valueOf "logger" line = some (.str "app.http") ∧ valueOf "request_id" line = some (.str id)

/-- A line names its request. -/
structure Names (starlette : Starlette) (x : Exchange) (line : Fields) : Prop where
  requestId : valueOf "request_id" line = some (.str (x.requestId starlette))
  method : valueOf "method" line = some (.str x.scope.method)
  path : valueOf "path" line = some (.str x.scope.path)

/-- **What the log tells about a request**, at the level of the configuration. -/
structure Logged (starlette : Starlette) (level : Level) (x : Exchange) (lines : List Fields) :
    Prop where
  /-- an exception has one line, which comes first -/
  split : ∃ raised completed, lines = raised ++ completed ∧
    (raised.length = if x.raises starlette ∧ level.levelno ≤ 40 then 1 else 0) ∧
    (completed.length = if level.levelno ≤ 20 then 1 else 0) ∧
    (∀ line ∈ raised, valueOf "level" line = some (.str "ERROR") ∧
      valueOf "exception" line = some (.str x.traceback)) ∧
    ∀ line ∈ completed, valueOf "level" line = some (.str "INFO") ∧
      valueOf "status_code" line = some (.num (.ofNat (x.status starlette))) ∧
      valueOf "duration_ms" line = some (.num x.durationMs)
  names : ∀ line ∈ lines, Names starlette x line

/-! ## The fields of a line -/

theorem get_append (key : String) (fields fields' : Fields) :
    valueOf key (fields ++ fields') = (valueOf key fields).or (valueOf key fields') := by
  rw [valueOf, List.find?_append]
  cases h : fields.find? fun f => f.1 = key <;> simp [valueOf, h]

namespace JsonFormatter

theorem get_optional (key key' : String) (value : Option Scalar) :
    valueOf key (optional key' value) = if key' = key then value else none := by
  cases value with
  | none => simp [optional, valueOf]
  | some v =>
    by_cases h : key' = key <;> simp [optional, valueOf, h]

section
variable (e : Emitted)

@[simp] theorem get_level : valueOf "level" (payload e) = some (.str e.record.level.levelname) := by
  simp [payload, valueOf]

@[simp] theorem get_logger : valueOf "logger" (payload e) = some (.str e.record.name) := by
  simp [payload, valueOf]

@[simp] theorem get_requestId : valueOf "request_id" (payload e) = (requestId e).map .str := by
  simp only [payload, get_append, get_optional]
  simp [valueOf]

@[simp] theorem get_method : valueOf "method" (payload e) = e.record.method.map .str := by
  simp only [payload, get_append, get_optional]
  simp [valueOf]

@[simp] theorem get_path : valueOf "path" (payload e) = e.record.path.map .str := by
  simp only [payload, get_append, get_optional]
  simp [valueOf]

@[simp] theorem get_statusCode :
    valueOf "status_code" (payload e) = e.record.statusCode.map fun n => .num (.ofNat n) := by
  simp only [payload, get_append, get_optional]
  simp [valueOf]

@[simp] theorem get_durationMs :
    valueOf "duration_ms" (payload e) = e.record.durationMs.map .num := by
  simp only [payload, get_append, get_optional]
  simp [valueOf]

@[simp] theorem get_exception : valueOf "exception" (payload e) = e.record.exception.map .str := by
  simp only [payload, get_append, get_optional]
  simp [valueOf]

end

end JsonFormatter

theorem stdout_eq (level : Level) (es : List Emitted) :
    stdout level es = writeLines (logLines level es) := by
  rw [stdout, logLines, writeLines, List.flatMap_map]
  rfl

/-! ## The records of a request -/

namespace Exchange
variable {starlette : Starlette} (x : Exchange)

/-- The record of an exception, and that of the end. -/
def raisedRecord (starlette : Starlette) : Record where
  level := .error
  name := "app.http"
  message := "Unhandled application exception"
  requestId := some (x.requestId starlette)
  method := some x.scope.method
  path := some x.scope.path
  exception := some x.traceback

def completedRecord (starlette : Starlette) : Record where
  level := .info
  name := "app.http"
  message := "HTTP request completed"
  requestId := some (x.requestId starlette)
  method := some x.scope.method
  path := some x.scope.path
  statusCode := some (x.status starlette)
  durationMs := some x.durationMs

/-- The status of the last record is the one that the client has seen. -/
theorem logs_world : (x.world starlette).logs =
    RequestContextMiddleware.exceptions x.scope (x.requestId starlette)
      (RequestContextMiddleware.ran starlette x.uuid4 x.app x.scope) ++
    [RequestContextMiddleware.completedRecord x.scope (x.requestId starlette)
      (x.status starlette)] := by
  have hstatus : ∀ ms : List Message,
      (ms.map (Message.stamp starlette (x.requestId starlette))).filterMap Message.status =
        ms.filterMap Message.status := by
    intro ms
    rw [List.filterMap_map]
    exact List.filterMap_congr fun m _ => status_stamp m
  rw [status, world, RequestContextMiddleware.exec_call x.http none]
  simp only [World.pass, List.nil_append]
  rw [← requestId, hstatus]

theorem emitted_eq (starlette : Starlette) : ∃ now context, x.emitted starlette =
    (if x.raises starlette then [⟨x.now 0, x.context 0, x.raisedRecord starlette⟩] else []) ++
      [⟨now, context, x.completedRecord starlette⟩] := by
  rw [emitted, logs_world, raises, RequestContextMiddleware.exceptions]
  rcases (RequestContextMiddleware.ran starlette x.uuid4 x.app x.scope).result with (exc | exc) | _
  all_goals exact ⟨_, _, rfl⟩

/-- Each record of the request names it. -/
theorem names_of_emitted {e : Emitted} (he : e ∈ x.emitted starlette) :
    e.record.name = "app.http" ∧ Names starlette x (JsonFormatter.payload e) := by
  have hid : ∀ now context record, record.requestId = some (x.requestId starlette) →
      JsonFormatter.requestId ⟨now, context, record⟩ = some (x.requestId starlette) := by
    intro now context record h
    have hne := RequestContextMiddleware.requestId_ne_empty starlette x.uuid4 x.scope
    rw [JsonFormatter.requestId]
    simp only [h]
    split
    · simp_all
    · rename_i heq
      exact absurd (Option.some.inj heq) hne
    · rename_i heq
      exact heq.symm
  obtain ⟨now, context, heq⟩ := x.emitted_eq starlette
  rw [heq, List.mem_append, List.mem_singleton] at he
  rcases he with he | rfl
  · split_ifs at he
    · obtain rfl := List.mem_singleton.1 he
      refine ⟨rfl, ?_, by simp [raisedRecord], by simp [raisedRecord]⟩
      rw [JsonFormatter.get_requestId, hid _ _ _ rfl, Option.map_some]
    · simp at he
  · refine ⟨rfl, ?_, by simp [completedRecord], by simp [completedRecord]⟩
    rw [JsonFormatter.get_requestId, hid _ _ _ rfl, Option.map_some]

/-- **What the records of a request tell.** -/
theorem logged_emitted (level : Level) :
    Logged starlette level x (logLines level (x.emitted starlette)) where
  split := by
    obtain ⟨now, context, heq⟩ := x.emitted_eq starlette
    rw [logLines, heq, List.filter_append, List.map_append]
    refine ⟨_, _, rfl, ?_, ?_, ?_, ?_⟩
    · have hreaches : Emitted.reaches level ⟨x.now 0, x.context 0, x.raisedRecord starlette⟩ =
          decide (level.levelno ≤ 40) := rfl
      by_cases hr : x.raises starlette <;> by_cases hl : level.levelno ≤ 40 <;>
        simp [hr, hl, hreaches]
    · have hreaches : Emitted.reaches level ⟨now, context, x.completedRecord starlette⟩ =
          decide (level.levelno ≤ 20) := rfl
      by_cases hl : level.levelno ≤ 20 <;> simp [hl, hreaches]
    · intro line hline
      obtain ⟨e, he, rfl⟩ := List.mem_map.1 hline
      have he := (List.mem_filter.1 he).1
      split_ifs at he
      · obtain rfl := List.mem_singleton.1 he
        simp [raisedRecord, Level.levelname]
      · simp at he
    · intro line hline
      obtain ⟨e, he, rfl⟩ := List.mem_map.1 hline
      obtain rfl := List.mem_singleton.1 (List.mem_filter.1 he).1
      simp [completedRecord, Level.levelname]
  names := by
    intro line hline
    obtain ⟨e, he, rfl⟩ := List.mem_map.1 hline
    exact (x.names_of_emitted (List.mem_filter.1 he).1).2

end Exchange

/-! ## The log of all requests -/

section
variable {starlette : Starlette} {xs : List Exchange} {es : List (Option ℕ × Emitted)}

/-- A record of the log is about request `i` iff request `i` has emitted it. -/
theorem Interleaved.about_iff (h : Interleaved starlette xs es)
    (hids : (xs.map (Exchange.requestId starlette)).Nodup) {i : ℕ} {x : Exchange}
    (hx : xs[i]? = some x) {e : Option ℕ × Emitted} (he : e ∈ es) :
    about (x.requestId starlette) (JsonFormatter.payload e.2) = decide (e.1 = some i) := by
  have hown : ∀ j y, xs[j]? = some y → e.1 = some j → e.2.record.name = "app.http" ∧
      Names starlette y (JsonFormatter.payload e.2) := by
    intro j y hy hj
    refine y.names_of_emitted ?_
    rw [← h.own j y hy]
    exact List.mem_map_of_mem (List.mem_filter.2 ⟨he, decide_eq_true hj⟩)
  rw [about, decide_eq_decide, JsonFormatter.get_logger]
  constructor
  · rintro ⟨hname, hid⟩
    simp only [Option.some.injEq, Scalar.str.injEq] at hname
    rcases h.others e he with ⟨j, hj, hej⟩ | ⟨-, hne⟩
    · have hy := List.getElem?_eq_getElem hj
      have hidy := (hown j _ hy hej).2.requestId
      rw [hid, Option.some.injEq, Scalar.str.injEq] at hidy
      have hi := (List.getElem?_eq_some_iff.1 hx).1
      have hij : i = j := by
        refine (List.getElem?_inj (by simpa using hi) hids).1 ?_
        rw [List.getElem?_map, List.getElem?_map, hx, hy, Option.map_some, Option.map_some, hidy]
      rw [hej, hij]
    · exact absurd hname hne
  · intro hei
    obtain ⟨hname, hnames⟩ := hown i x hx hei
    exact ⟨by rw [hname], hnames.requestId⟩

/-- **The log is true.**  Requests that are served at the same time, with different ids, leave a
    log that is read back: the objects of the records that reach the level, in their order, and if
    the log was cut off those of the complete lines.  The lines about a request are its own, and
    tell what has happened to it. -/
theorem log_of_requests (h : Interleaved starlette xs es)
    (hids : (xs.map (Exchange.requestId starlette)).Nodup) (level : Level) :
    readLines (stdout level (es.map Prod.snd)) = some (logLines level (es.map Prod.snd)) ∧
      (∀ n, readLines ((stdout level (es.map Prod.snd)).take n) =
        some ((logLines level (es.map Prod.snd)).take
          (((stdout level (es.map Prod.snd)).take n).count '\n'))) ∧
      (∀ line ∈ logLines level (es.map Prod.snd), valueOf "logger" line = some (.str "app.http") →
        ∃ x ∈ xs, about (x.requestId starlette) line) ∧
      ∀ (i : ℕ) x, xs[i]? = some x → Logged starlette level x
        ((logLines level (es.map Prod.snd)).filter (about (x.requestId starlette))) := by
  rw [stdout_eq]
  refine ⟨readLines_writeLines _, readLines_take _, fun line hline hname => ?_, fun i x hx => ?_⟩
  · obtain ⟨e', he', rfl⟩ := List.mem_map.1 hline
    obtain ⟨e, he, rfl⟩ := List.mem_map.1 (List.mem_filter.1 he').1
    rw [JsonFormatter.get_logger, Option.some.injEq, Scalar.str.injEq] at hname
    rcases h.others e he with ⟨i, hi, hei⟩ | ⟨-, hne⟩
    · refine ⟨xs[i], List.getElem_mem hi, ?_⟩
      rw [h.about_iff hids (List.getElem?_eq_getElem hi) he]
      exact decide_eq_true hei
    · exact absurd hname hne
  · have hown : (logLines level (es.map Prod.snd)).filter (about (x.requestId starlette)) =
        logLines level (x.emitted starlette) := by
      rw [logLines, logLines, List.filter_map, ← h.own i x hx, List.filter_map, List.filter_map,
        List.filter_map, List.map_map, List.map_map, List.filter_filter, List.filter_filter]
      congr 1
      refine List.filter_congr fun e he => ?_
      simp only [Function.comp_apply, h.about_iff hids hx he, Bool.and_comm]
    rw [hown]
    exact x.logged_emitted level

end

namespace Sample

def failing : Exchange where
  uuid4 := 7
  app := failingLate
  scope := request
  http := rfl
  now n := if n = 0 then "10:00:01" else "10:00:03"
  context _ := some "own"
  durationMs := ⟨['1', '2', '.', '5'], by simp, by simp [isNumberChar]⟩
  traceback := "Traceback\nRuntimeError"

/-- Its path holds a line of the log. -/
def forging : Exchange where
  uuid4 := 8
  app _ context := ⟨[.start 404 [], .body [] false], .ok (), context⟩
  scope := { request with
    path := "/\n\x7b\"logger\": \"app.http\", \"request_id\": \"client-1\"\x7d\n"
    headers := [] }
  http := rfl
  now _ := "10:00:02"
  context _ := none
  durationMs := ⟨['0', '.', '7', '5'], by simp, by simp [isNumberChar]⟩
  traceback := ""

def expired : Record where
  level := .info
  name := "app.workers.expiration"
  message := "Expired 3 reservations"

/-- The second request is served while the first one is. -/
def interleaving : List (Option ℕ × Emitted) :=
  [(some 0, ⟨"10:00:01", some "own", failing.raisedRecord starlette⟩),
    (some 1, ⟨"10:00:02", none, forging.completedRecord starlette⟩),
    (none, ⟨"10:00:02", none, expired⟩),
    (some 0, ⟨"10:00:03", some "own", failing.completedRecord starlette⟩)]

theorem interleaved : Interleaved starlette [failing, forging] interleaving where
  own := by
    rintro (_ | _ | i) x hx
    · cases hx
      rfl
    · cases hx
      rfl
    · simp at hx
  others := by
    simp only [interleaving, List.forall_mem_cons, List.length_cons, List.length_nil]
    exact ⟨.inl ⟨0, by decide, rfl⟩, .inl ⟨1, by decide, rfl⟩, .inr ⟨trivial, by decide⟩,
      .inl ⟨0, by decide, rfl⟩, by simp⟩

end Sample

/-- The forged line is in a field of the second line; the last line was cut off. -/
theorem log_of_requests_forged :
    (logLines .info (Sample.interleaving.map Prod.snd)).length = 4 ∧
    readLines ((stdout .info (Sample.interleaving.map Prod.snd)).dropLast) =
      some ((logLines .info (Sample.interleaving.map Prod.snd)).take 3) ∧
    Logged Sample.starlette .info Sample.failing
      ((logLines .info (Sample.interleaving.map Prod.snd)).filter
        (about (Sample.failing.requestId Sample.starlette))) := by
  obtain ⟨-, hcut, -, hlogged⟩ := log_of_requests Sample.interleaved (by decide) .info
  refine ⟨rfl, ?_, hlogged 0 _ rfl⟩
  have hlines : logLines .info (Sample.interleaving.map Prod.snd) =
      (logLines .info (Sample.interleaving.map Prod.snd)).take 3 ++
        [JsonFormatter.payload ⟨"10:00:03", some "own",
          Sample.failing.completedRecord Sample.starlette⟩] := rfl
  have hcount : (stdout .info (Sample.interleaving.map Prod.snd)).dropLast.count '\n' = 3 := by
    rw [stdout_eq, hlines, count_writeLines_append]
    rfl
  rw [List.dropLast_eq_take] at hcount ⊢
  rw [hcut, hcount]

end TicketReservation.Http
