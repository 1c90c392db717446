import FetchPlan.Proofs.Command.Verdicts
import FetchPlan.Proofs.Json.Printable

/-!
# Checking agrees with parsing

`check` and `parse` come to the same verdict, so they end with the same exit code. The
report of `check` is one line of JSON that is read back, whatever the message in it holds.
-/

namespace FetchPlan

open Json (Value Members nestingLimit)
open Json.Value

/-! ## Other input streams -/

/-- The surroundings with another input stream. -/
def Host.withInput {m : Type → Type} [Monad m] (host : Host m)
    (input : Except FileFault ByteArray) : Host m :=
  { host with input := return input }

theorem Host.Steady.withInput {σ : Type} {host : Host (StateM σ)}
    {input : Except FileFault ByteArray} (h : host.Steady input)
    (other : Except FileFault ByteArray) : (host.withInput other).Steady other :=
  ⟨fun _ => rfl, h.unchanged⟩

namespace Command

section

variable {σ : Type} (host : Host (StateM σ)) (s : σ)

/-! ## What is expected -/

/-- The exit code by what is loaded: documents that cannot be read give 3, documents that
are not what they should be give 2, a rejected request gives 1. -/
def expectedCode (request : String) (defaults : Option String) : Nat :=
  match host.patch s defaults with
  | .error (.notFound _) | .error (.unreadable _ _) => 3
  | .error (.notJson _) | .error (.refused _) => 2
  | .ok patch =>
    match host.request s request with
    | .error (.notFound _) | .error (.unreadable _ _) => 3
    | .error (.notJson _) | .error (.refused _) => 2
    | .ok v =>
      match Plan.assemble (.ofValue v) (Defaults.base.apply patch) with
      | .error _ => 1
      | .ok _ => 0

theorem exitCode_verdict (request : String) (defaults : Option String) :
    (verdict host s request defaults).exitCode = expectedCode host s request defaults := by
  unfold verdict expectedCode
  cases host.patch s defaults with
  | error e => cases e <;> rfl
  | ok patch =>
    cases host.request s request with
    | error e => cases e <;> rfl
    | ok v =>
      dsimp only
      cases Plan.assemble (.ofValue v) (Defaults.base.apply patch) <;> rfl

end

/-! ## What is written -/

/-- What `parse` writes when it writes to the output stream. -/
def Verdict.parsed (v : Verdict) (pretty : Bool) : Output :=
  match v with
  | .accepted plan => ⟨0, line (planText pretty plan), ""⟩
  | v => ⟨v.exitCode, "", v.complaint⟩

section

variable {σ : Type} {host : Host (StateM σ)} {input : Except FileFault ByteArray}
variable (h : host.Steady input) (s : σ) (logSetting : Option String)
include h

theorem run_parse (verbose pretty : Bool) (request : String) (defaults : Option String) :
    run host logSetting ⟨verbose, request, defaults, .parse none pretty⟩ s =
      let v := verdict host s request defaults
      ((v.parsed pretty).after (v.logged verbose logSetting), s) := by
  rw [h.run_eq]
  dsimp only
  cases verdict host s request defaults <;> rfl

theorem run_check (verbose json : Bool) (request : String) (defaults : Option String) :
    run host logSetting ⟨verbose, request, defaults, .check json⟩ s =
      let v := verdict host s request defaults
      ((v.report json).after (v.logged verbose logSetting), s) := by
  rw [h.run_eq]
  rfl

end

/-! ## Reports -/

theorem line_ne_empty (text : String) : line text ≠ "" := by
  intro h
  have hlength := congrArg String.length h
  simp [line] at hlength

namespace Verdict

theorem parsed_code (v : Verdict) (pretty : Bool) : (v.parsed pretty).code = v.exitCode := by
  cases v <;> rfl

/-- `parse` writes a plan to the output stream exactly when it goes through. -/
theorem parsed_stdout_iff (v : Verdict) (pretty : Bool) :
    (v.parsed pretty).stdout ≠ "" ↔ v.exitCode = 0 := by
  cases v with
  | accepted plan => exact iff_of_true (line_ne_empty _) rfl
  | badDefaults e | badRequest e =>
    exact iff_of_false (fun h => h rfl) e.exitCode_ne.1
  | rejected r => exact iff_of_false (fun h => h rfl) Nat.one_ne_zero

theorem printable_toJson (v : Verdict) : v.toJson.Printable nestingLimit 0 := by
  have room : (0 : Nat) < nestingLimit := by decide
  cases v with
  | accepted plan =>
    exact printable_object room (by simp [Members.keys]) (by simp [printable_bool])
  | badDefaults e | badRequest e =>
    exact printable_object room (by simp [Members.keys])
      (by simp [printable_bool, printable_string])
  | rejected r =>
    have hcode : (ofNat r.status.code).Printable nestingLimit 1 := by
      cases r.status <;> exact printable_ofNat (by decide)
    exact printable_object room (by simp [Members.keys])
      (by simp [printable_bool, printable_string, hcode])

end Verdict

/-- The text is one line, which is read as an object with these members. -/
def OneObject (stdout : String) (ms : Members) : Prop :=
  ∃ text, stdout = text ++ "\n" ∧ '\n' ∉ text.toList ∧
    Value.ofText? nestingLimit text = some (.object ms)

/-- What a report says on a command with this exit code. -/
structure Report (code : Nat) (ms : Members) : Prop where
  valid : ms.get? "valid" = some (.bool (decide (code = 0)))
  status : (ms.get? "status").isSome ↔ code = 1
  error : (ms.get? "error").isSome ↔ code ≠ 0

/-- What a report says on a rejected request. -/
structure Report.Rejected (r : Rejection) (ms : Members) : Prop where
  status : ms.get? "status" = some (.ofNat 500) ∧ (∃ missing, r = .missingMode missing) ∨
    ms.get? "status" = some (.ofNat 400) ∧ ∀ missing, r ≠ .missingMode missing
  error : ms.get? "error" = some (.string r.message)

/-- The report of any verdict is one object. -/
theorem Verdict.exists_report (v : Verdict) :
    ∃ ms, OneObject (v.report true).stdout ms ∧ Report v.exitCode ms ∧
      ∀ r, v = .rejected r → Report.Rejected r ms := by
  have hline : ∀ ms, v.toJson = .object ms → OneObject (v.report true).stdout ms := by
    intro ms hms
    refine ⟨v.toJson.compact, rfl, ?_, hms ▸ v.printable_toJson.ofText?_compact⟩
    rw [compact, String.toList_ofList]
    exact Json.newline_not_mem_compactChars v.printable_toJson.integral
  cases v with
  | badDefaults e | badRequest e =>
    obtain ⟨h0, h1⟩ := e.exitCode_ne
    refine ⟨_, hline _ rfl, ⟨?_, ?_, ?_⟩, by rintro r ⟨⟩⟩
    · show some (Value.bool false) = some (.bool (decide (e.exitCode = 0)))
      simp [h0]
    · exact iff_of_false Bool.false_ne_true h1
    · exact iff_of_true rfl h0
  | rejected r =>
    refine ⟨_, hline _ rfl, ⟨rfl, iff_of_true rfl rfl, iff_of_true rfl Nat.one_ne_zero⟩, ?_⟩
    rintro r' heq
    cases heq
    refine ⟨?_, rfl⟩
    cases r with
    | missingMode missing => exact .inl ⟨rfl, missing, rfl⟩
    | mismatch | missingFilters | pageWithoutLimit => exact .inr ⟨rfl, by rintro missing ⟨⟩⟩
  | accepted plan =>
    exact ⟨_, hline _ rfl, ⟨rfl, iff_of_false (by decide) Nat.zero_ne_one,
      iff_of_false (by decide) (fun h => h rfl)⟩, by rintro r ⟨⟩⟩

/-! ## The input stream and files -/

/-- Outputs that are the same but for the path of a document that cannot be read: on the
error stream, or in a report. -/
inductive Output.DifferInPath (path path' : String) : Output → Output → Prop
  | same (out : Output) : DifferInPath path path' out out
  | complaint (code : Nat) (before reason : String) :
    DifferInPath path path'
      ⟨code, "", before ++ ("cannot read " ++ path ++ ": " ++ reason) ++ "\n"⟩
      ⟨code, "", before ++ ("cannot read " ++ path' ++ ": " ++ reason) ++ "\n"⟩
  | report (code : Nat) (before reason : String) :
    DifferInPath path path'
      ⟨code, Value.compact (.object [("valid", .bool false),
        ("error", .string (before ++ ("cannot read " ++ path ++ ": " ++ reason)))]) ++ "\n", ""⟩
      ⟨code, Value.compact (.object [("valid", .bool false),
        ("error", .string (before ++ ("cannot read " ++ path' ++ ": " ++ reason)))]) ++ "\n", ""⟩

/-- The same bytes give the same document, or none of them is one. -/
theorem ofBytes_cases (explain : String → String) (path path' : String) (bytes : ByteArray) :
    Document.ofBytes explain path bytes = Document.ofBytes explain path' bytes ∨
      String.fromUTF8? bytes = none ∧ ∃ reason, ∀ path,
        Document.ofBytes explain path bytes = .error (.unreadable path reason) := by
  cases h : String.fromUTF8? bytes with
  | some text => exact .inl (by simp only [Document.ofBytes, h])
  | none =>
    refine .inr ⟨rfl, "stream did not contain valid UTF-8", fun path => ?_⟩
    simp only [Document.ofBytes, h]

section

variable {σ : Type} {host : Host (StateM σ)} {input : Except FileFault ByteArray}

/-- Writing does not depend on what stands in the input stream. -/
theorem act_withInput (input : Except FileFault ByteArray) (action : Action) (v : Verdict) :
    act (host.withInput input) action v = act host action v := by
  cases action with
  | check json => rfl
  | parse output pretty => cases v <;> rfl

variable (h : host.Steady input) (s : σ) (logSetting : Option String)
include h

theorem run_withInput {request request' : String} {defaults : Option String}
    {other : Except FileFault ByteArray}
    (hverdict : verdict host s request defaults =
      verdict (host.withInput other) s request' defaults)
    (verbose : Bool) (action : Action) :
    run host logSetting ⟨verbose, request, defaults, action⟩ s =
      run (host.withInput other) logSetting ⟨verbose, request', defaults, action⟩ s := by
  rw [h.run_eq, (h.withInput other).run_eq]
  dsimp only
  rw [hverdict, act_withInput]

/-- What a command leaves behind when the request cannot be read. -/
theorem run_of_unreadable {request : String} {defaults : Option String}
    {patch : Defaults.Patch} {path reason : String} (hpatch : host.patch s defaults = .ok patch)
    (hrequest : host.request s request = .error (.unreadable path reason))
    (verbose : Bool) (action : Action) :
    run host logSetting ⟨verbose, request, defaults, action⟩ s =
      match action with
      | .parse _ _ =>
        (⟨3, "", "Error: " ++ ("cannot read " ++ path ++ ": " ++ reason) ++ "\n"⟩, s)
      | .check false =>
        (⟨3, "", "Error: loading params: " ++ ("cannot read " ++ path ++ ": " ++ reason) ++ "\n"⟩,
          s)
      | .check true =>
        (⟨3, Value.compact (.object [("valid", .bool false), ("error", .string
          ("loading params: " ++ ("cannot read " ++ path ++ ": " ++ reason)))]) ++ "\n", ""⟩, s) := by
  have hverdict : verdict host s request defaults = .badRequest (.unreadable path reason) := by
    simp only [verdict, hpatch, hrequest]
  have hlog : (Verdict.badRequest (.unreadable path reason)).logged verbose logSetting = "" := by
    cases verbose <;> rfl
  have hafter : ∀ out : Output, out.after "" = out := by
    intro out
    simp [Output.after]
  rw [h.run_eq]
  simp only [hverdict, hlog, hafter]
  cases action with
  | parse output pretty => rfl
  | check json => cases json <;> rfl

/-- The same bytes from the input stream and from a file. When they are text, nothing tells
them apart; otherwise only the name of what cannot be read does. -/
theorem run_same_bytes {stream path : String} {bytes : ByteArray}
    (other : Except FileFault ByteArray) (hstream : namesInput stream = true)
    (hpath : namesInput path = false) (hbytes : input = .ok bytes)
    (hread : (host.read path s).1 = .ok bytes) (verbose : Bool) (defaults : Option String)
    (action : Action) :
    let fromInput := run host logSetting ⟨verbose, stream, defaults, action⟩ s
    let fromFile := run (host.withInput other) logSetting ⟨verbose, path, defaults, action⟩ s
    fromInput = fromFile ∨
      String.fromUTF8? bytes = none ∧ fromInput.2 = fromFile.2 ∧
        fromInput.1.code = fromFile.1.code ∧
        Output.DifferInPath Document.inputName path fromInput.1 fromFile.1 := by
  dsimp only
  have hinput : host.request s stream =
      Document.ofBytes host.explain Document.inputName bytes := by
    rw [Host.request, if_pos hstream, Host.inputDocument, h.input, hbytes]
  have hfile : (host.withInput other).request s path =
      Document.ofBytes host.explain path bytes := by
    rw [Host.request, if_neg (by simp [hpath])]
    show host.document s path = _
    rw [Host.document, hread]
  have hpatches : (host.withInput other).patch s defaults = host.patch s defaults := rfl
  rcases ofBytes_cases host.explain Document.inputName path bytes with
    hsame | ⟨hnone, reason, hbad⟩
  · refine .inl (run_withInput h s logSetting ?_ verbose action)
    rw [verdict, verdict, hpatches, hinput, hfile, hsame]
  cases hpatch : host.patch s defaults with
  | error e =>
    -- the request is not even looked at
    refine .inl (run_withInput h s logSetting ?_ verbose action)
    rw [verdict, verdict, hpatches, hpatch]
  | ok patch =>
    have hunreadable := hinput.trans (hbad Document.inputName)
    have hunreadable' := hfile.trans (hbad path)
    rw [run_of_unreadable h s logSetting hpatch hunreadable,
      run_of_unreadable (h.withInput other) s logSetting (hpatches.trans hpatch) hunreadable']
    refine .inr ⟨hnone, ?_⟩
    cases action with
    | parse output pretty => exact ⟨rfl, rfl, .complaint ..⟩
    | check json =>
      cases json with
      | false => exact ⟨rfl, rfl, .complaint ..⟩
      | true => exact ⟨rfl, rfl, .report ..⟩

end

namespace Agreement

/-- A request with a quote and a line break in a token. -/
def asked : ByteArray := "\x7b\"includes\": [\"a\\\"\\n\"]\x7d".toUTF8

/-- The request, and defaults without a mode. -/
def store : Files :=
  (Files.fresh.addFile "d.json" "\x7b\"mode\": \"\"\x7d".toUTF8).addFile "p.json" asked

/-- The request also stands in the input stream. All texts are JSON, so that nothing is to be
said about them. -/
def host : Host (StateM Files) := Files.host (.ok asked) fun _ => ""

/-- An input stream that breaks off. -/
def broken : Except FileFault ByteArray := .error (.other "Input/output error (os error 5)")

end Agreement

example : expectedCode (Agreement.host.withInput Agreement.broken) Agreement.store "-" none = 3 := by
  decide +kernel

end Command

end FetchPlan
