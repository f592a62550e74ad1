import RelayPay.ReadCommitted.Script
import RelayPay.Schema

/-! Workflow runs: steps that workers claim under a lease, and the budget they share. -/

namespace RelayPay.Workflows

open ReadCommitted Txn

abbrev RunId := ℕ
abbrev StepId := ℕ
abbrev OrganisationId := ℕ

inductive WorkflowStatus where
  | queued | running | waitingUntil | waitingForApproval | requiresReview | succeeded | failed | cancelled
  | deadLetter
  deriving DecidableEq

structure Usage where
  tokens : ℤ
  costUsdMicros : ℤ
  deriving DecidableEq

structure WorkflowRun where
  organisation : OrganisationId
  environment : EnvironmentId
  status : WorkflowStatus
  tokenBudget : ℤ
  costBudgetUsdMicros : ℤ
  tokensUsed : ℤ
  costUsedUsdMicros : ℤ
  cancellationRequestedAt : Option Time
  deriving DecidableEq

inductive StepEntry where
  | claimed (token : Token)
  | closed (token : Token)
  deriving DecidableEq

/-- `reported` is what the step was completed with, and `log` what happened to its leases, the last first. -/
structure WorkflowStep where
  publicId : String
  run : RunId
  definition : Json
  status : WorkflowStatus
  attemptCount : ℕ
  maxAttempts : ℕ
  nextAttemptAt : Time
  createdAt : Time
  leaseToken : Option Token
  leaseExpiresAt : Option Time
  output : Option Json
  safeErrorCode : Option String
  completedAt : Option Time
  reported : Usage
  log : List StepEntry

structure DeadLetter where
  run : RunId
  step : StepId
  reasonCode : String
  attemptCount : ℕ
  stepPublicId : String

structure WorkflowState where
  runs : Table RunId WorkflowRun
  steps : Table StepId WorkflowStep
  deadLetters : List DeadLetter

inductive WorkflowKey where
  | run (r : RunId)
  | step (k : StepId)
  deriving DecidableEq

abbrev WorkflowTx (α : Type) := Txn WorkflowState WorkflowKey Empty Error α

namespace WorkflowState

variable (s : WorkflowState)

def putRun (r : RunId) (run : WorkflowRun) : WorkflowState := { s with runs := s.runs.put r run }

def putStep (k : StepId) (row : WorkflowStep) : WorkflowState := { s with steps := s.steps.put k row }

def updateRun (r : RunId) (f : WorkflowRun → WorkflowRun) : WorkflowState := { s with runs := s.runs.update r f }

def updateStep (k : StepId) (f : WorkflowStep → WorkflowStep) : WorkflowState :=
  { s with steps := s.steps.update k f }

def bury (d : DeadLetter) : WorkflowState := { s with deadLetters := s.deadLetters ++ [d] }

end WorkflowState

structure StepLease where
  step : StepId
  token : Token
  definition : Json

structure Scope where
  organisation : Option OrganisationId
  environment : Option EnvironmentId

def claimable (scope : Scope) (now : Time) (run : WorkflowRun) (row : WorkflowStep) : Bool :=
  [.queued, .waitingUntil, .running].contains row.status &&
    scope.organisation.all (fun o => run.organisation = o) && scope.environment.all (fun e => run.environment = e) &&
    row.nextAttemptAt ≤ now && row.leaseExpiresAt.all (fun t => t ≤ now) && run.cancellationRequestedAt.isNone

def WorkflowState.joined (s : WorkflowState) (k : StepId) : Option (WorkflowStep × WorkflowRun) := do
  let row ← s.steps.get k
  let run ← s.runs.get row.run
  some (row, run)

def upTo (a b : StepId × WorkflowStep) : Prop :=
  a.2.nextAttemptAt < b.2.nextAttemptAt ∨ a.2.nextAttemptAt = b.2.nextAttemptAt ∧
    (a.2.createdAt < b.2.createdAt ∨ a.2.createdAt = b.2.createdAt ∧ a.1 ≤ b.1)

instance : DecidableRel upTo := fun a b =>
  inferInstanceAs (Decidable (a.2.nextAttemptAt < b.2.nextAttemptAt ∨ a.2.nextAttemptAt = b.2.nextAttemptAt ∧
    (a.2.createdAt < b.2.createdAt ∨ a.2.createdAt = b.2.createdAt ∧ a.1 ≤ b.1)))

def due (scope : Scope) (now : Time) (s : WorkflowState) : List StepId :=
  ((s.steps.rows.filter fun e => (s.runs.get e.2.run).any fun run => claimable scope now run e.2).insertionSort
    upTo).map Prod.fst

def firstDue (scope : Scope) (now : Time) : List StepId → WorkflowTx (Option (StepId × WorkflowStep))
  | [] => done none
  | k :: rest => do
    let joined ← query fun s => s.joined k
    match joined with
    | none => firstDue scope now rest
    | some (loaded, _) => do
      let free ← attempt (.step k)
      if free then do
        let free ← attempt (.run loaded.run)
        if free then do
          let found ← query fun s => (s.joined k).filter fun e => claimable scope now e.2 e.1
          match found with
          | some (row, _) => done (some (k, row))
          | none => firstDue scope now rest
        else firstDue scope now rest
      else firstDue scope now rest

def WorkflowStep.lease (row : WorkflowStep) (token : Token) (now : Time) (leaseSeconds : ℕ) : WorkflowStep :=
  { row with
    status := .running
    attemptCount := row.attemptCount + 1
    leaseToken := some token
    leaseExpiresAt := some (now + seconds leaseSeconds)
    log := .claimed token :: row.log }

def claimStep (now : Time) (leaseSeconds : ℕ) (scope : Scope) (token : Token) : WorkflowTx (Option StepLease) := do
  let candidates ← query (due scope now)
  let found ← firstDue scope now candidates
  match found with
  | none => done none
  | some (k, row) => do
    -- `new_uuid` gives no token twice
    ensure (.claimed token ∉ row.log) .database
    modify fun s => s.putStep k (row.lease token now leaseSeconds)
    done (some ⟨k, token, row.definition⟩)

def leaseLost : Error := relayPay "LEASE_LOST" "Step lease is no longer valid" 409 []

namespace WorkflowRun

def exceeds (run : WorkflowRun) (usage : Usage) : Bool :=
  run.tokenBudget < run.tokensUsed + usage.tokens ||
    run.costBudgetUsdMicros < run.costUsedUsdMicros + usage.costUsdMicros

def spend (run : WorkflowRun) (usage : Usage) : WorkflowRun :=
  { run with
    tokensUsed := run.tokensUsed + usage.tokens
    costUsedUsdMicros := run.costUsedUsdMicros + usage.costUsdMicros }

def patch (loaded new run : WorkflowRun) : WorkflowRun :=
  { run with
    status := patched loaded.status new.status run.status
    tokensUsed := patched loaded.tokensUsed new.tokensUsed run.tokensUsed
    costUsedUsdMicros := patched loaded.costUsedUsdMicros new.costUsedUsdMicros run.costUsedUsdMicros }

end WorkflowRun

namespace WorkflowStep

def released (row : WorkflowStep) : WorkflowStep := { row with leaseToken := none, leaseExpiresAt := none }

def exhausted (row : WorkflowStep) : WorkflowStep :=
  { row with status := .requiresReview, safeErrorCode := some "MODEL_BUDGET_EXHAUSTED" }.released

def succeed (row : WorkflowStep) (now : Time) : WorkflowStep :=
  { row with status := .succeeded, completedAt := some now }.released

def retryDelay (firstByte : Digest → ℕ) (row : WorkflowStep) : Time :=
  let jitter := firstByte (sha256 (encode (row.publicId ++ ":" ++ toString row.attemptCount))) % 7
  seconds (min 300 (2 ^ row.attemptCount) + jitter)

def retries (row : WorkflowStep) (retryable : Bool) : Bool := retryable && row.attemptCount < row.maxAttempts

def fail (row : WorkflowStep) (firstByte : Digest → ℕ) (reasonCode : String) (retryable : Bool) (now : Time) :
    WorkflowStep :=
  let row := { row with safeErrorCode := some reasonCode }.released
  if row.retries retryable then
    { row with status := .waitingUntil, nextAttemptAt := now + row.retryDelay firstByte }
  else { row with status := .deadLetter }

def patch (loaded new row : WorkflowStep) : WorkflowStep :=
  { row with
    status := patched loaded.status new.status row.status
    nextAttemptAt := patched loaded.nextAttemptAt new.nextAttemptAt row.nextAttemptAt
    leaseToken := patched loaded.leaseToken new.leaseToken row.leaseToken
    leaseExpiresAt := patched loaded.leaseExpiresAt new.leaseExpiresAt row.leaseExpiresAt
    safeErrorCode := patched loaded.safeErrorCode new.safeErrorCode row.safeErrorCode
    completedAt := patched loaded.completedAt new.completedAt row.completedAt }

def note (row : WorkflowStep) (token : Token) : WorkflowStep := { row with log := .closed token :: row.log }

def result (row : WorkflowStep) (output : Json) (usage : Usage) : WorkflowStep :=
  { row with output := some output, reported := usage }

end WorkflowStep

def heldStep (lease : StepLease) : WorkflowTx WorkflowStep := do
  let found ← query fun s => (s.steps.get lease.step).filter fun row => row.leaseToken = some lease.token
  require found leaseLost

def flushRun (r : RunId) (loaded new : WorkflowRun) : WorkflowTx Unit :=
  if new = loaded then done ()
  else do
    acquire (.run r)
    modify fun s => s.updateRun r (WorkflowRun.patch loaded new)

def flushStep (lease : StepLease) (loaded new : WorkflowStep) (rest : WorkflowStep → WorkflowStep) :
    WorkflowTx Unit := do
  acquire (.step lease.step)
  modify fun s => s.updateStep lease.step fun row => rest ((WorkflowStep.patch loaded new row).note lease.token)

def completeStep (lease : StepLease) (output : Json) (usage : Usage) (now : Time) : WorkflowTx Unit := do
  let row ← heldStep lease
  let loaded ← query fun s => s.runs.get row.run
  let run ← require loaded (.relayPay (notFound "Workflow run"))
  if run.exceeds usage then do
    flushRun row.run run { run with status := .requiresReview }
    flushStep lease row row.exhausted id
  else do
    flushRun row.run run (run.spend usage)
    flushStep lease row (row.succeed now) fun row => row.result output usage

def failStep (firstByte : Digest → ℕ) (lease : StepLease) (reasonCode : String) (retryable : Bool) (now : Time) :
    WorkflowTx Unit := do
  let row ← heldStep lease
  flushStep lease row (row.fail firstByte reasonCode retryable now) id
  if row.retries retryable then done ()
  else modify fun s => s.bury ⟨row.run, lease.step, reasonCode, row.attemptCount, row.publicId⟩

inductive Worker where
  | claiming (now : Time) (leaseSeconds : ℕ) (scope : Scope) (token : Token)
  | working (lease : StepLease)
  | completing (lease : StepLease) (output : Json) (usage : Usage) (now : Time)
  | failing (lease : StepLease) (reasonCode : String) (retryable : Bool) (now : Time)
  | finished

inductive Act : Worker → WorkflowState → Worker → WorkflowState → Prop
  | completes {lease output usage now s} : Act (.working lease) s (.completing lease output usage now) s
  | fails {lease reasonCode retryable now s} : Act (.working lease) s (.failing lease reasonCode retryable now) s

inductive Environment : WorkflowState → WorkflowState → Prop
  | startRun {s r run} : s.runs.get r = none → run.tokensUsed = 0 → run.costUsedUsdMicros = 0 → 0 ≤ run.tokenBudget →
      0 ≤ run.costBudgetUsdMicros → Environment s (s.putRun r run)
  | addStep {s k row} : s.steps.get k = none → (s.runs.get row.run).isSome = true → row.status = .queued →
      row.attemptCount = 0 → 0 < row.maxAttempts → row.leaseToken = none → row.log = [] →
      Environment s (s.putStep k row)

def workflows (firstByte : Digest → ℕ) : System WorkflowState WorkflowKey Empty Error Worker where
  txn
    | .claiming now leaseSeconds scope token => some do
        let lease ← claimStep now leaseSeconds scope token
        done (lease.elim .finished .working)
    | .working _ => none
    | .completing lease output usage now => some do
        completeStep lease output usage now
        done .finished
    | .failing lease reasonCode retryable now => some do
        failStep firstByte lease reasonCode retryable now
        done .finished
    | .finished => none
  fire := Empty.elim
  handler _ _ := .finished
  dbError _ := True
  act := Act
  env := Environment
  spawn _ := True

def WorkflowState.start : WorkflowState := ⟨.empty, .empty, []⟩

end RelayPay.Workflows
