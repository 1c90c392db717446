import FetchPlan.Command.Run
import FetchPlan.Proofs.Document.Storage

/-!
# Verdicts

Coming to a verdict reads files and changes none. What is loaded decides the verdict, and
the verdict decides all that a command writes. This holds in all surroundings in which
reading changes nothing, whatever else they are.
-/

namespace FetchPlan

open Json (Value)

/-! ## What is loaded -/

namespace Host

variable {σ : Type} (host : Host (StateM σ)) (s : σ)

/-- The document in a file. -/
def document (path : String) : Except LoadError Value :=
  match (host.read path s).1 with
  | .ok bytes => Document.ofBytes host.explain path bytes
  | .error fault => .error (.ofFault path fault)

/-- The document in the input stream. -/
def inputDocument : Except LoadError Value :=
  match (host.input s).1 with
  | .ok bytes => Document.ofBytes host.explain Document.inputName bytes
  | .error fault => .error (.unreadable Document.inputName fault.text)

/-- The document that a path gives, which may stand for the input stream. -/
def request (path : String) : Except LoadError Value :=
  if Command.namesInput path then host.inputDocument s else host.document s path

/-- The patch that an optional defaults document gives. -/
def patch : Option String → Except LoadError Defaults.Patch
  | none => .ok .empty
  | some path =>
    match host.document s path with
    | .ok v => (Defaults.Patch.ofValue v).mapError .refused
    | .error e => .error e

end Host

/-- No failure to load looks like an accepted or a rejected request. -/
theorem LoadError.exitCode_ne (e : LoadError) : e.exitCode ≠ 0 ∧ e.exitCode ≠ 1 := by
  cases e <;> simp [exitCode]

namespace Command

namespace Verdict

theorem exitCode_eq_zero_iff (v : Verdict) : v.exitCode = 0 ↔ ∃ plan, v = .accepted plan := by
  cases v with
  | accepted plan => exact iff_of_true rfl ⟨plan, rfl⟩
  | badDefaults e | badRequest e => exact iff_of_false e.exitCode_ne.1 nofun
  | rejected r => exact iff_of_false (Nat.succ_ne_zero 0) nofun

/-- The verdict on a request for which a plan was assembled, or was not. -/
def ofOutcome : Except Rejection Plan → Verdict
  | .error r => .rejected r
  | .ok plan => .accepted plan

theorem ofOutcome_injective : Function.Injective ofOutcome := by
  intro o o' h
  cases o <;> cases o' <;> cases h <;> rfl

/-- The log lines of a verdict. -/
def logged (v : Verdict) (verbose : Bool) (logSetting : Option String) : String :=
  if verbose then v.log (LogFilter.ofSetting logSetting) else ""

end Verdict

/-- The output behind some log lines. -/
def Output.after (out : Output) (log : String) : Output := { out with stderr := log ++ out.stderr }

section

variable {σ : Type} (host : Host (StateM σ)) (s : σ) (request : String)
  (defaults : Option String)

/-- The verdict on what is loaded: the defaults first, then the request, then the plan. -/
def verdict : Verdict :=
  match host.patch s defaults with
  | .error e => .badDefaults e
  | .ok patch =>
    match host.request s request with
    | .error e => .badRequest e
    | .ok v => .ofOutcome (Plan.assemble (.ofValue v) (Defaults.base.apply patch))

/-- Both documents are loaded, and this is what comes of the request. -/
def Assembles (outcome : Except Rejection Plan) : Prop :=
  ∃ patch v, host.patch s defaults = .ok patch ∧ host.request s request = .ok v ∧
    Plan.assemble (.ofValue v) (Defaults.base.apply patch) = outcome

variable {host s request defaults} in
theorem verdict_eq_ofOutcome_iff {o : Except Rejection Plan} :
    verdict host s request defaults = .ofOutcome o ↔ Assembles host s request defaults o := by
  unfold verdict Assembles
  cases host.patch s defaults with
  | error e => cases o <;> simp [Verdict.ofOutcome]
  | ok patch =>
    cases host.request s request with
    | error e => cases o <;> simp [Verdict.ofOutcome]
    | ok v => simp [Verdict.ofOutcome_injective.eq_iff]

end

end Command

/-! ## Reading changes nothing -/

theorem stateM_bind {σ α β : Type} (x : StateM σ α) (f : α → StateM σ β) (s : σ) :
    (x >>= f) s = f (x s).1 (x s).2 :=
  rfl

namespace Host.Steady

open Command

variable {σ : Type} {host : Host (StateM σ)} {input : Except FileFault ByteArray}
variable (h : host.Steady input) (s : σ)
include h

theorem load_eq (path : String) : host.load path s = (host.document s path, s) := by
  rw [load, stateM_bind, h.unchanged, document]
  cases (host.read path s).1 <;> rfl

theorem loadInput_eq : host.loadInput s = (host.inputDocument s, s) := by
  rw [loadInput, stateM_bind, h.input, inputDocument, h.input]
  cases input <;> rfl

theorem loadPatch_eq (defaults : Option String) :
    loadPatch host defaults s = (host.patch s defaults, s) := by
  cases defaults with
  | none => rfl
  | some path =>
    show loadDefaults host path s = _
    rw [loadDefaults, stateM_bind, h.load_eq, patch]
    cases host.document s path <;> rfl

theorem loadRequest_eq (path : String) :
    loadRequest host path s = (host.request s path, s) := by
  unfold loadRequest request
  split
  · exact h.loadInput_eq s
  · exact h.load_eq s path

theorem judge_eq (c : Command) : judge host c s = (verdict host s c.request c.defaults, s) := by
  rw [judge, stateM_bind, h.loadPatch_eq, verdict]
  cases host.patch s c.defaults with
  | error e => rfl
  | ok patch =>
    show ((loadRequest host c.request : StateM σ _) >>= _) s = _
    rw [stateM_bind, h.loadRequest_eq]
    cases host.request s c.request with
    | error e => rfl
    | ok v =>
      dsimp only
      cases Plan.assemble (.ofValue v) (Defaults.base.apply patch) <;> rfl

/-- A command does what it says with the verdict, in the state that the verdict was made in. -/
theorem run_eq (logSetting : Option String) (c : Command) :
    run host logSetting c s =
      let v := verdict host s c.request c.defaults
      let left := act host c.action v s
      (left.1.after (v.logged c.verbose logSetting), left.2) := by
  unfold run
  rw [stateM_bind, h.judge_eq]
  rfl

end Host.Steady

end FetchPlan
