/-
`VmExecutionResultAndLogs` and `get_execution_metrics`.

Four metrics are read off the event log: the bytes of the long L2→L1
messages, the bytes of the published bytecodes, the marked-as-known count
(`contract_deployment_count`) and the event count. Batch totals are sums of
per-transaction metrics, which is sound only if these four are sums of
per-event costs; the last two sections prove that law, panics included, and
name the per-event cost itself (`event_cost`).

The work is in the pure forms of the extractors from `Event`: once the
topic reads are known not to panic, the panics left are the two `.expect`s,
and forgetting their messages (`Except.toOption`) turns the metric into an
`Option`-valued function of the log that `List.filter`, `List.mapM` and
`List.sum` all distribute over.
-/
import VmInterface.Event

set_option autoImplicit false

namespace VmInterface

open VmEvent

/-! ## The records -/

/-- Refunds produced for the user. -/
structure Refunds where
  gas_refunded : UInt64 := 0
  operator_suggested_refund : UInt64 := 0
deriving DecidableEq, Repr

/-- `StorageLogWithPreviousValue`. This file only counts them. -/
structure StorageLogWithPreviousValue where
deriving DecidableEq, Repr

/-- `UserL2ToL1Log`. This file only counts them. -/
structure UserL2ToL1Log where
deriving DecidableEq, Repr

/-- `SystemL2ToL1Log`. This file only counts them. -/
structure SystemL2ToL1Log where
deriving DecidableEq, Repr

/-- Events/storage logs/l2->l1 logs created within transaction execution. -/
structure VmExecutionLogs where
  storage_logs : List StorageLogWithPreviousValue := []
  events : List VmEvent := []
  user_l2_to_l1_logs : List UserL2ToL1Log := []
  system_l2_to_l1_logs : List SystemL2ToL1Log := []
  total_log_queries_count : usize := 0
deriving DecidableEq, Repr

def VmExecutionLogs.total_l2_to_l1_logs_count (self : VmExecutionLogs) : usize :=
  self.user_l2_to_l1_logs.length.toUInt64 + self.system_l2_to_l1_logs.length.toUInt64

/-- `VmRevertReason`; `ExecutionResult` only carries it. -/
structure VmRevertReason where
deriving DecidableEq, Repr

/-- `Halt`; `ExecutionResult` only carries it. -/
structure Halt where
deriving DecidableEq, Repr

inductive ExecutionResult where
  /-- Returned successfully -/
  | Success (output : Bytes)
  /-- Reverted by contract -/
  | Revert (output : VmRevertReason)
  /-- Reverted for various reasons -/
  | Halt (reason : Halt)
deriving DecidableEq, Repr

/-- Returns `true` if the execution was failed. -/
def ExecutionResult.is_failed : ExecutionResult → Bool
  | .Revert _ | .Halt _ => true
  | .Success _ => false

/-- `CircuitStatistic`, a record of `f32` counters that `get_execution_metrics`
copies from the statistics unchanged; the model only carries it. -/
structure CircuitStatistic where
deriving DecidableEq, Repr

/-- The counters of `VmExecutionStatistics` that `get_execution_metrics` copies. -/
structure VmExecutionStatistics where
  gas_used : UInt64 := 0
  contracts_used : usize := 0
  total_log_queries : usize := 0
  cycles_used : UInt32 := 0
  computational_gas_used : UInt32 := 0
  pubdata_published : UInt32 := 0
  circuit_statistic : CircuitStatistic := {}
deriving DecidableEq, Repr

/-- `VmExecutionMetrics`. -/
structure VmExecutionMetrics where
  gas_used : usize
  published_bytecode_bytes : usize
  l2_l1_long_messages : usize
  l2_to_l1_logs : usize
  user_l2_to_l1_logs : usize
  contracts_used : usize
  contract_deployment_count : usize
  vm_events : usize
  storage_logs : usize
  total_log_queries : usize
  cycles_used : UInt32
  computational_gas_used : UInt32
  pubdata_published : UInt32
  circuit_statistic : CircuitStatistic
deriving DecidableEq, Repr

/-- Result and logs of the VM execution. -/
structure VmExecutionResultAndLogs where
  result : ExecutionResult
  logs : VmExecutionLogs
  statistics : VmExecutionStatistics
  refunds : Refunds
  /-- Dynamic bytecodes decommitted during VM execution. -/
  dynamic_factory_deps : List (H256 × Bytes)
deriving DecidableEq, Repr

namespace VmExecutionResultAndLogs

/-- Creates a mock full result based on the provided base result. -/
def mock (result : ExecutionResult) : VmExecutionResultAndLogs :=
  ⟨result, {}, {}, {}, []⟩

/-- Creates a mock successful result with no payload. -/
def mock_success : VmExecutionResultAndLogs := mock (.Success Bytes.empty)

/-! ## `get_execution_metrics` -/

/-- The closure of the first sum: a message published as ABI-encoded `bytes`
is its length rounded up to a multiple of 32, plus the offset and length words. -/
def long_message_len (event : Bytes) : usize := (event.len + 31) / 32 * 32 + 64

variable (env : SystemEnv)

/-- The closure of the second sum. -/
def published_bytecode_len (bytecode_hash : H256) : Except String usize := do
  let len_in_bytes ← expect (env.bytecode_len_in_bytes bytecode_hash)
    "published unparseable bytecode hash"
  pure (len_in_bytes + env.PUBLISH_BYTECODE_OVERHEAD.toUInt64)

theorem published_bytecode_len_eq_error_iff (h : H256) (msg : String) :
    published_bytecode_len env h = .error msg ↔
      ∃ err, env.bytecode_len_in_bytes h = .error err ∧
        msg = "published unparseable bytecode hash: " ++ err := by
  unfold published_bytecode_len
  cases env.bytecode_len_in_bytes h <;> simp [pure_eq_ok, eq_comm]

theorem published_bytecode_len_isOk_iff (h : H256) :
    (∃ len, published_bytecode_len env h = .ok len) ↔
      ∃ n, env.bytecode_len_in_bytes h = .ok n := by
  unfold published_bytecode_len
  cases env.bytecode_len_in_bytes h <;>
    simp only [expect_error, expect_ok, error_bind, ok_bind, pure_eq_ok, reduceCtorEq, exists_false,
      Except.ok.injEq, exists_eq']

def get_execution_metrics (self : VmExecutionResultAndLogs) : Except String VmExecutionMetrics := do
  let l2_l1_long_messages :=
    usize_sum ((← extract_long_l2_to_l1_messages env self.logs.events).map long_message_len)
  let published_bytecode_bytes :=
    usize_sum (← (← extract_published_bytecodes env self.logs.events).mapM
      (published_bytecode_len env))
  let contract_deployment_count :=
    (← extract_bytecodes_marked_as_known env self.logs.events).length.toUInt64
  pure {
    gas_used := self.statistics.gas_used
    published_bytecode_bytes
    l2_l1_long_messages
    l2_to_l1_logs := self.logs.total_l2_to_l1_logs_count
    user_l2_to_l1_logs := self.logs.user_l2_to_l1_logs.length.toUInt64
    contracts_used := self.statistics.contracts_used
    vm_events := self.logs.events.length.toUInt64
    storage_logs := self.logs.storage_logs.length.toUInt64
    total_log_queries := self.statistics.total_log_queries
    cycles_used := self.statistics.cycles_used
    computational_gas_used := self.statistics.computational_gas_used
    pubdata_published := self.statistics.pubdata_published
    circuit_statistic := self.statistics.circuit_statistic
    contract_deployment_count }

/-! ## One run of `get_execution_metrics` -/

/-- **The per-message term never wraps**: for any `Vec` length, the `usize`
arithmetic of `long_message_len` is the exact natural-number formula. -/
theorem long_message_len_toNat (x : Bytes) :
    (long_message_len x).toNat = (x.toList.length + 31) / 32 * 32 + 64 := by
  have hx := x.length_le
  simp only [isize_MAX, Nat.reducePow] at hx
  simp only [long_message_len, usize_toNat_add, usize_toNat_mul, UInt64.toNat_div, Bytes.len_toNat,
    Nat.reducePow]
  have h31 : (31 : usize).toNat = 31 := rfl
  have h32 : (32 : usize).toNat = 32 := rfl
  have h64 : (64 : usize).toNat = 64 := rfl
  rw [h31, h32, h64]
  omega

/-- Messages of 1, 32 and 33 bytes: one, one and two payload words. -/
example : (long_message_len ⟨List.replicate 1 0, by decide⟩,
    long_message_len ⟨List.replicate 32 0, by decide⟩,
    long_message_len ⟨List.replicate 33 0, by decide⟩) = (96, 96, 128) := rfl

/-- A mock result has an empty log and zero statistics, so every metric is zero. -/
example (result : ExecutionResult) :
    (mock result).get_execution_metrics env = .ok ⟨0, 0, 0, 0, 0, 0, 0, 0, 0, 0, 0, 0, 0, {}⟩ :=
  rfl

/-- What a successful `get_execution_metrics` is made of: the long messages
decoded, and the two metrics that only count. -/
theorem get_execution_metrics_ok_inv {self : VmExecutionResultAndLogs} {m : VmExecutionMetrics}
    (hm : get_execution_metrics env self = .ok m) :
    ∃ msgs, extract_long_l2_to_l1_messages env self.logs.events = .ok msgs ∧
      m.l2_l1_long_messages = usize_sum (msgs.map long_message_len) ∧
      m.contract_deployment_count =
        ((self.logs.events.filter (admits_marked_as_known env)).map bytecode_hash).length.toUInt64 ∧
      m.vm_events = self.logs.events.length.toUInt64 := by
  obtain ⟨msgs, hmsgs, hm⟩ := bind_eq_ok.1 hm
  rw [extract_published_bytecodes_eq, ok_bind] at hm
  obtain ⟨lens, -, hm⟩ := bind_eq_ok.1 hm
  rw [extract_bytecodes_marked_as_known_eq, ok_bind] at hm
  cases hm
  exact ⟨msgs, hmsgs, rfl, rfl, rfl⟩

/-! ## The event-derived metrics -/

/-- The same result over another event log; the other fields stay fixed. -/
def with_events (self : VmExecutionResultAndLogs) (events : List VmEvent) :
    VmExecutionResultAndLogs :=
  { self with logs := { self.logs with events } }

/-- The long-message bytes of a log, in the pure form of the extractor;
`none` where a payload does not decode. -/
def long_bytes (events : List VmEvent) : Option usize :=
  ((events.filter (admits_l1_message env)).mapM fun e => (env.ethabi_decode_bytes e.value).toOption).map
    fun msgs => (msgs.map long_message_len).sum

/-- The published-bytecode bytes of a log; `none` where a hash does not parse. -/
def published_bytes (events : List VmEvent) : Option usize :=
  (((events.filter (admits_published env)).map bytecode_hash).mapM
    fun h => (env.bytecode_len_in_bytes h).toOption.map (· + env.PUBLISH_BYTECODE_OVERHEAD.toUInt64)).map
    List.sum

/-- The four metrics `get_execution_metrics` reads off the event log; `none`
where it panics. -/
def event_metrics_of (events : List VmEvent) : Option (usize × usize × usize × usize) := do
  let long ← long_bytes env events
  let published ← published_bytes env events
  pure (long, published, (events.filter (admits_marked_as_known env)).length.toUInt64,
    events.length.toUInt64)

end VmExecutionResultAndLogs

/-- The event-derived fields of a metrics record. -/
def VmExecutionMetrics.event_metrics (m : VmExecutionMetrics) : usize × usize × usize × usize :=
  (m.l2_l1_long_messages, m.published_bytecode_bytes, m.contract_deployment_count, m.vm_events)

namespace VmExecutionResultAndLogs

variable (env : SystemEnv)

theorem published_bytecode_len_toOption (h : H256) :
    (published_bytecode_len env h).toOption =
      (env.bytecode_len_in_bytes h).toOption.map (· + env.PUBLISH_BYTECODE_OVERHEAD.toUInt64) := by
  rw [published_bytecode_len, toOption_bind, toOption_expect]
  cases env.bytecode_len_in_bytes h <;> rfl

/-- The record `get_execution_metrics` builds from its four event-derived
fields; the others are copied from the statistics or counted off the other logs. -/
def assemble_metrics (self : VmExecutionResultAndLogs) :
    usize × usize × usize × usize → VmExecutionMetrics
  | (l2_l1_long_messages, published_bytecode_bytes, contract_deployment_count, vm_events) =>
    { gas_used := self.statistics.gas_used
      published_bytecode_bytes
      l2_l1_long_messages
      l2_to_l1_logs := self.logs.total_l2_to_l1_logs_count
      user_l2_to_l1_logs := self.logs.user_l2_to_l1_logs.length.toUInt64
      contracts_used := self.statistics.contracts_used
      vm_events
      storage_logs := self.logs.storage_logs.length.toUInt64
      total_log_queries := self.statistics.total_log_queries
      cycles_used := self.statistics.cycles_used
      computational_gas_used := self.statistics.computational_gas_used
      pubdata_published := self.statistics.pubdata_published
      circuit_statistic := self.statistics.circuit_statistic
      contract_deployment_count }

@[simp] theorem event_metrics_assemble_metrics (self : VmExecutionResultAndLogs)
    (x : usize × usize × usize × usize) : (self.assemble_metrics x).event_metrics = x := by
  obtain ⟨_, _, _, _⟩ := x
  rfl

/-- With its panics forgotten, `get_execution_metrics` reads the log only
through `event_metrics_of`. -/
theorem get_execution_metrics_toOption (self : VmExecutionResultAndLogs) :
    (get_execution_metrics env self).toOption =
      (event_metrics_of env self.logs.events).map self.assemble_metrics := by
  simp only [get_execution_metrics, extract_long_l2_to_l1_messages_eq,
    extract_published_bytecodes_eq, extract_bytecodes_marked_as_known_eq, ok_bind, toOption_bind,
    toOption_mapM, decode_l1_message, toOption_expect, published_bytecode_len_toOption,
    event_metrics_of, long_bytes, published_bytes, usize_sum_eq]
  simp [pure_eq_ok, Except.toOption, Option.bind_map, Function.comp_def, assemble_metrics]

/-- **`get_execution_metrics` on the event log.** Its four event-derived
fields, and whether it panics at all, are `event_metrics_of` the log. -/
theorem get_execution_metrics_event_metrics (self : VmExecutionResultAndLogs) :
    (get_execution_metrics env self).toOption.map VmExecutionMetrics.event_metrics =
      event_metrics_of env self.logs.events := by
  rw [get_execution_metrics_toOption, Option.map_map]
  simp only [Function.comp_def, event_metrics_assemble_metrics, Option.map_id']

/-- A sum over a fallible `mapM` splits over `++`, `none` absorbing. -/
theorem mapM_map_append {α β : Type} (g : α → Option β) (F : List β → usize)
    (hF : ∀ xs ys, F (xs ++ ys) = F xs + F ys) (l₁ l₂ : List α) :
    ((l₁ ++ l₂).mapM g).map F =
      (do let x ← (l₁.mapM g).map F
          let y ← (l₂.mapM g).map F
          pure (x + y)) := by
  rw [List.mapM_append]
  cases l₁.mapM g <;> cases l₂.mapM g <;> simp [hF]

theorem long_bytes_append (a b : List VmEvent) :
    long_bytes env (a ++ b) =
      (do let x ← long_bytes env a; let y ← long_bytes env b; pure (x + y)) := by
  simp only [long_bytes, List.filter_append]
  exact mapM_map_append _ _ (by simp [List.sum_append]) _ _

theorem published_bytes_append (a b : List VmEvent) :
    published_bytes env (a ++ b) =
      (do let x ← published_bytes env a; let y ← published_bytes env b; pure (x + y)) := by
  simp only [published_bytes, List.filter_append, List.map_append]
  exact mapM_map_append _ _ (fun _ _ => List.sum_append) _ _

/-- **The event-derived metrics are additive over the log**, panics included:
the log `a ++ b` panics iff `a` or `b` does, and otherwise its metrics are
the sums. -/
theorem event_metrics_of_append (a b : List VmEvent) :
    event_metrics_of env (a ++ b) =
      (do let x ← event_metrics_of env a
          let y ← event_metrics_of env b
          pure (x + y)) := by
  simp only [event_metrics_of, long_bytes_append, published_bytes_append, List.filter_append,
    List.length_append, usize_ofNat_add]
  cases long_bytes env a <;> cases long_bytes env b <;> cases published_bytes env a <;>
    cases published_bytes env b <;> rfl

/-- **What one event costs**: its long-message bytes, its published-bytecode
bytes, whether it marks a bytecode known, and itself; `none` when it cannot be
decoded or its hash parsed. -/
def event_cost (e : VmEvent) : Option (usize × usize × usize × usize) := do
  let long ← (if admits_l1_message env e then
      (env.ethabi_decode_bytes e.value).toOption.map long_message_len else pure 0)
  let published ← (if admits_published env e then
      (env.bytecode_len_in_bytes (bytecode_hash e)).toOption.map
        (· + env.PUBLISH_BYTECODE_OVERHEAD.toUInt64) else pure 0)
  pure (long, published, if admits_marked_as_known env e then 1 else 0, 1)

theorem long_bytes_singleton (e : VmEvent) :
    long_bytes env [e] = if admits_l1_message env e then
      (env.ethabi_decode_bytes e.value).toOption.map long_message_len else pure 0 := by
  simp only [long_bytes, List.filter_cons, List.filter_nil]
  cases admits_l1_message env e <;> cases h : (env.ethabi_decode_bytes e.value).toOption <;>
    simp [h, -List.mapM]

theorem published_bytes_singleton (e : VmEvent) :
    published_bytes env [e] = if admits_published env e then
      (env.bytecode_len_in_bytes (bytecode_hash e)).toOption.map
        (· + env.PUBLISH_BYTECODE_OVERHEAD.toUInt64) else pure 0 := by
  simp only [published_bytes, List.filter_cons, List.filter_nil]
  cases admits_published env e <;> cases h : (env.bytecode_len_in_bytes (bytecode_hash e)).toOption <;>
    simp [h, -List.mapM]

theorem event_metrics_of_singleton (e : VmEvent) : event_metrics_of env [e] = event_cost env e := by
  simp only [event_metrics_of, event_cost, long_bytes_singleton, published_bytes_singleton,
    List.filter_cons, List.filter_nil]
  cases admits_marked_as_known env e <;> rfl

/-- **The metrics are the sum of the per-event costs**: `get_execution_metrics`
refines the abstract reading of the log as a sum, with `none` absorbing. -/
theorem event_metrics_of_eq_sum (events : List VmEvent) :
    event_metrics_of env events = (events.mapM (event_cost env)).map List.sum := by
  induction events with
  | nil => rfl
  | cons e l ih =>
    rw [List.mapM_cons, show e :: l = [e] ++ l from rfl, event_metrics_of_append,
      event_metrics_of_singleton, ih]
    cases event_cost env e <;> cases l.mapM (event_cost env) <;> rfl

/-- **`get_execution_metrics` refines the per-event cost model**: on every
result, it panics iff some event's cost is undefined, and otherwise its four
event-derived fields are the sum of the events' costs. -/
theorem get_execution_metrics_eq_sum_event_cost (self : VmExecutionResultAndLogs) :
    (get_execution_metrics env self).toOption.map VmExecutionMetrics.event_metrics =
      (self.logs.events.mapM (event_cost env)).map List.sum := by
  rw [get_execution_metrics_event_metrics, event_metrics_of_eq_sum]

/-! ## The metrics over an event log -/

theorem with_events_event_metrics (self : VmExecutionResultAndLogs) (events : List VmEvent) :
    ((self.with_events events).get_execution_metrics env).toOption.map
      VmExecutionMetrics.event_metrics = event_metrics_of env events :=
  get_execution_metrics_event_metrics env _

/-- **The event-derived metrics are additive over the event log.** With every
other field fixed, `get_execution_metrics` on `a ++ b` panics iff it panics on
`a` or on `b`, and otherwise its long-message bytes, published-bytecode bytes,
deployment count and event count are the (wrapping) sums of those on `a` and
on `b`. Underneath, the three extractors are list homomorphisms, panics
included: nothing is dropped, merged or deduplicated across the seam. -/
theorem get_execution_metrics_additive (r : VmExecutionResultAndLogs) (a b : List VmEvent) :
    ((r.with_events (a ++ b)).get_execution_metrics env).toBool =
        (((r.with_events a).get_execution_metrics env).toBool &&
          ((r.with_events b).get_execution_metrics env).toBool) ∧
    ((r.with_events (a ++ b)).get_execution_metrics env).toOption.map
        VmExecutionMetrics.event_metrics =
      (do let ma ← ((r.with_events a).get_execution_metrics env).toOption
          let mb ← ((r.with_events b).get_execution_metrics env).toOption
          pure (ma.event_metrics + mb.event_metrics)) ∧
    extract_long_l2_to_l1_messages env (a ++ b) =
      (do let xs ← extract_long_l2_to_l1_messages env a
          let ys ← extract_long_l2_to_l1_messages env b
          pure (xs ++ ys)) ∧
    extract_published_bytecodes env (a ++ b) =
      (do let xs ← extract_published_bytecodes env a
          let ys ← extract_published_bytecodes env b
          pure (xs ++ ys)) ∧
    extract_bytecodes_marked_as_known env (a ++ b) =
      (do let xs ← extract_bytecodes_marked_as_known env a
          let ys ← extract_bytecodes_marked_as_known env b
          pure (xs ++ ys)) := by
  have hsum : ((r.with_events (a ++ b)).get_execution_metrics env).toOption.map
      VmExecutionMetrics.event_metrics =
      (do let ma ← ((r.with_events a).get_execution_metrics env).toOption
          let mb ← ((r.with_events b).get_execution_metrics env).toOption
          pure (ma.event_metrics + mb.event_metrics)) := by
    rw [with_events_event_metrics, event_metrics_of_append, ← with_events_event_metrics env r a,
      ← with_events_event_metrics env r b]
    cases ((r.with_events a).get_execution_metrics env).toOption <;>
      cases ((r.with_events b).get_execution_metrics env).toOption <;> rfl
  refine ⟨?_, hsum, filter_map_collect_append _ _ a b, filter_map_collect_append _ _ a b,
    filter_map_collect_append _ _ a b⟩
  revert hsum
  cases (r.with_events (a ++ b)).get_execution_metrics env <;>
    cases (r.with_events a).get_execution_metrics env <;>
    cases (r.with_events b).get_execution_metrics env <;> simp [Except.toOption, Except.toBool]

/-- **Batch totals.** Summing the event-derived metrics of the transactions of
a batch gives those of the batch's whole event log: the batch panics iff one
of its transactions does, and otherwise the totals are the (wrapping) sums. -/
theorem event_metrics_flatten (r : VmExecutionResultAndLogs) (logs : List (List VmEvent)) :
    ((r.with_events logs.flatten).get_execution_metrics env).toOption.map
        VmExecutionMetrics.event_metrics =
      (logs.mapM fun events => ((r.with_events events).get_execution_metrics env).toOption).map
        fun ms => (ms.map VmExecutionMetrics.event_metrics).sum := by
  induction logs with
  | nil => rfl
  | cons events logs ih =>
    rw [List.flatten_cons, with_events_event_metrics, event_metrics_of_append,
      ← with_events_event_metrics env r events, ← with_events_event_metrics env r logs.flatten, ih,
      List.mapM_cons]
    cases ((r.with_events events).get_execution_metrics env).toOption <;>
      cases logs.mapM fun events => ((r.with_events events).get_execution_metrics env).toOption <;>
      rfl

/-- **`l2_l1_long_messages` is the ABI-encoded size of the long messages.**
On a log whose `L1MessageSent` payloads decode, the extracted messages are
the decoded payloads of the admitted events, one per event and in order; the
metric is the (wrapping) sum, over them, of the length of each message's
canonical ABI encoding as one `bytes` argument; and the per-message term is
computed in `usize` without wrapping, for every `Vec` length. -/
theorem l2_l1_long_messages_eq_abi_encoding_length (r : VmExecutionResultAndLogs)
    (m : VmExecutionMetrics) (msgs : List Bytes)
    (hm : r.get_execution_metrics env = .ok m)
    (hmsgs : extract_long_l2_to_l1_messages env r.logs.events = .ok msgs) :
    (r.logs.events.filter (admits_l1_message env)).mapM
        (fun e => env.ethabi_decode_bytes e.value) = .ok msgs ∧
    m.l2_l1_long_messages.toNat =
        (msgs.map fun x => (abi_encode_bytes x.toList).length).sum % 2 ^ 64 ∧
    ∀ x : Bytes, (long_message_len x).toNat = (x.toList.length + 31) / 32 * 32 + 64 ∧
      (abi_encode_bytes x.toList).length = (x.toList.length + 31) / 32 * 32 + 64 := by
  refine ⟨?_, ?_, fun x => ⟨long_message_len_toNat x, abi_encode_bytes_length _⟩⟩
  · rw [extract_long_l2_to_l1_messages_eq] at hmsgs
    exact (expect_eq_ok_iff _ _ _).1 ((mapM_expect _ _ _).symm.trans hmsgs)
  · obtain ⟨msgs', hmsgs', hlong, -⟩ := get_execution_metrics_ok_inv env hm
    obtain rfl : msgs' = msgs := Except.ok.inj (hmsgs'.symm.trans hmsgs)
    rw [hlong, usize_sum_eq, usize_list_sum_toNat, List.map_map]
    simp only [Function.comp_def, long_message_len_toNat, abi_encode_bytes_length]

/-- A 33-byte message. -/
def sample_message : Bytes := ⟨List.replicate 33 7, by decide⟩

/-- The `L1MessageSent` event of `SystemEnv.sample` carrying `sample_message`,
ABI-encoded as one `bytes` argument. -/
def sample_l1_message_event : VmEvent :=
  ⟨(⟨0⟩, 0), SystemEnv.sample.L1_MESSENGER_ADDRESS,
    [L1_MESSAGE_EVENT_SIGNATURE, FixedBytes.zero 32, FixedBytes.zero 32],
    ⟨abi_encode_bytes sample_message.toList, by rw [abi_encode_bytes_length]; decide⟩⟩

set_option maxRecDepth 4000 in
/-- The 33-byte message costs two payload words and two head words: 128 bytes. -/
theorem l2_l1_long_messages_of_sample_message :
    (mock_success.with_events [sample_l1_message_event]).get_execution_metrics SystemEnv.sample =
        .ok ⟨0, 0, 128, 0, 0, 0, 0, 1, 0, 0, 0, 0, 0, {}⟩ ∧
      extract_long_l2_to_l1_messages SystemEnv.sample [sample_l1_message_event] =
        .ok [sample_message] ∧
      ([sample_l1_message_event].filter (admits_l1_message SystemEnv.sample)).mapM
          (fun e => SystemEnv.sample.ethabi_decode_bytes e.value) = .ok [sample_message] ∧
      (128 : usize).toNat =
        ([sample_message].map fun x => (abi_encode_bytes x.toList).length).sum % 2 ^ 64 :=
  have h := l2_l1_long_messages_eq_abi_encoding_length SystemEnv.sample
    (mock_success.with_events [sample_l1_message_event])
    ⟨0, 0, 128, 0, 0, 0, 0, 1, 0, 0, 0, 0, 0, {}⟩ [sample_message] rfl rfl
  ⟨rfl, rfl, h.1, h.2.1⟩

/-- **Every bytecode billed as published is counted as marked known.**
`extract_published_bytecodes` is `extract_bytecodes_marked_as_known` with the
entries of the zero-flag events deleted, in order; the two agree when no
matching event has a zero third topic, and there are never more published
hashes than `contract_deployment_count` counts. That last count is a `usize`
that cannot wrap on a real log, whose slice length is bounded; the record
keeps its log as a plain list, which the additivity results concatenate
freely, so the bound is stated here, as `events.length < 2 ^ 64`. -/
theorem published_bytecodes_sublist_marked_as_known (r : VmExecutionResultAndLogs) :
    ∃ published known : List H256,
      extract_published_bytecodes env r.logs.events = .ok published ∧
      extract_bytecodes_marked_as_known env r.logs.events = .ok known ∧
      known = (r.logs.events.filter (admits_marked_as_known env)).map bytecode_hash ∧
      published = ((r.logs.events.filter (admits_marked_as_known env)).filter
        fun e => topic e 2 != FixedBytes.zero 32).map bytecode_hash ∧
      published.Sublist known ∧
      ((∀ e ∈ r.logs.events, admits_marked_as_known env e = true →
        topic e 2 ≠ FixedBytes.zero 32) → published = known) ∧
      published.length ≤ known.length ∧
      ∀ m, r.get_execution_metrics env = .ok m →
        m.contract_deployment_count = known.length.toUInt64 ∧
          (r.logs.events.length < 2 ^ 64 →
            published.length ≤ m.contract_deployment_count.toNat) := by
  have hsub : (((r.logs.events.filter (admits_marked_as_known env)).filter
      fun e => topic e 2 != FixedBytes.zero 32).map bytecode_hash).Sublist
      ((r.logs.events.filter (admits_marked_as_known env)).map bytecode_hash) :=
    (List.filter_sublist _).map _
  refine ⟨_, _, extract_published_bytecodes_eq_filter env _,
    extract_bytecodes_marked_as_known_eq env _, rfl, rfl, hsub, fun h => ?_, hsub.length_le,
    fun m hm => ?_⟩
  · refine congrArg (List.map bytecode_hash) (List.filter_eq_self.2 fun e he => ?_)
    obtain ⟨hmem, hadm⟩ := List.mem_filter.1 he
    simpa using h e hmem hadm
  · obtain ⟨-, -, -, hcount, -⟩ := get_execution_metrics_ok_inv env hm
    refine ⟨hcount, fun hlen => ?_⟩
    have hknown : ((r.logs.events.filter (admits_marked_as_known env)).map bytecode_hash).length <
        2 ^ 64 :=
      (List.length_map _ _).trans_lt ((List.length_filter_le _ _).trans_lt hlen)
    rw [hcount, usize_toNat_ofNat, Nat.mod_eq_of_lt hknown]
    exact hsub.length_le

end VmExecutionResultAndLogs

end VmInterface
