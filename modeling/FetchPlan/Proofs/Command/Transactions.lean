import FetchPlan.Proofs.Command.Verdicts
import FetchPlan.Proofs.Document.Storage
import FetchPlan.Proofs.Json.Printable

/-!
# All or nothing

A command reads first and writes last, and it writes at most one file. So when it fails it
has changed nothing, and when it goes through it has written the whole text of a plan that
was made from the old contents, even into a file that it had read. This needs little of the
surroundings: that reading changes nothing and finds what is there, and that a file is
written whole or not at all. A store of files is of this kind.
-/

namespace FetchPlan

open Json (Value)

/-! ## What the files give -/

/-- The bytes are a JSON text of the value in UTF-8. -/
def Document.Spells (bytes : ByteArray) (v : Value) : Prop :=
  ∃ text, String.fromUTF8? bytes = some text ∧ Value.ofText? Json.nestingLimit text = some v

theorem Document.ofBytes_eq_ok_iff {explain : String → String} {path : String}
    {bytes : ByteArray} {v : Value} : ofBytes explain path bytes = .ok v ↔ Spells bytes v := by
  unfold ofBytes Spells
  cases String.fromUTF8? bytes <;> simp [ofText_eq_ok_iff]

namespace Storage

variable {σ ι : Type} (st : Storage σ ι)

/-- The document in a file. -/
def GivesDocument (s : σ) (path : String) (v : Value) : Prop :=
  ∃ bytes, st.Holds s path bytes ∧ Document.Spells bytes v

/-- The patch in an optional document. -/
def GivesPatch (s : σ) : Option String → Defaults.Patch → Prop
  | none, patch => patch = .empty
  | some path, patch => ∃ v, st.GivesDocument s path v ∧ Defaults.Patch.ofValue v = .ok patch

/-- The request that a path gives, which may stand for the input stream. -/
def GivesRequest (input : Except FileFault ByteArray) (s : σ) (path : String) (v : Value) :
    Prop :=
  if Command.namesInput path then ∃ bytes, input = .ok bytes ∧ Document.Spells bytes v
  else st.GivesDocument s path v

/-- The plan that the files of a state and the input stream give for a command. -/
def GivesPlan (input : Except FileFault ByteArray) (s : σ) (c : Command) (plan : Plan) : Prop :=
  ∃ patch v, st.GivesPatch s c.defaults patch ∧ st.GivesRequest input s c.request v ∧
    Plan.assemble (.ofValue v) (Defaults.base.apply patch) = .ok plan

end Storage

/-- The path cannot be read. -/
def Host.Blocks {σ : Type} (host : Host (StateM σ)) (s : σ) (path : String) : Prop :=
  ∃ fault, (host.read path s).1 = .error fault

/-- One of the files that a command needs cannot be read. -/
def Host.BlocksCommand {σ : Type} (host : Host (StateM σ)) (s : σ) (c : Command) : Prop :=
  (∃ path, c.defaults = some path ∧ host.Blocks s path) ∨
    Command.namesInput c.request = false ∧ host.Blocks s c.request

/-! ## Finding what is there -/

/-- What is found is what is there, and it is found unless something is in the way. -/
structure Finds {α : Type} (found there : α → Prop) (blocked : Prop) : Prop where
  sound : ∀ x, found x → there x
  complete : ¬ blocked → ∀ x, there x → found x

namespace Finds

variable {α : Type} {found there : α → Prop} {blocked blocked' : Prop}

theorem imp (hfinds : Finds found there blocked) (h : blocked → blocked') :
    Finds found there blocked' :=
  ⟨hfinds.sound, fun hfree => hfinds.complete (mt h hfree)⟩

/-- A failure finds nothing, and that is right where nothing is there or something is in the
way. -/
theorem error {ε : Type} {e : ε} (h : ¬ blocked → ∀ x, ¬ there x) :
    Finds (Except.error e = .ok ·) there blocked :=
  ⟨nofun, fun hfree x hx => absurd hx (h hfree x)⟩

end Finds

namespace Storage

variable {σ ι : Type} {st : Storage σ ι} {host : Host (StateM σ)}
variable {input : Except FileFault ByteArray} (h : st.Serves host input) (s : σ)
include h

theorem finds_document (path : String) :
    Finds (host.document s path = .ok ·) (st.GivesDocument s path) (host.Blocks s path) := by
  unfold Host.document
  cases hread : (host.read path s).1 with
  | error fault => exact .error fun hfree => absurd ⟨fault, hread⟩ hfree
  | ok bytes =>
    have hbytes := h.holds s path bytes hread
    refine ⟨fun v hv => ⟨bytes, hbytes, Document.ofBytes_eq_ok_iff.1 hv⟩, ?_⟩
    rintro - v ⟨bytes', hbytes', hv⟩
    rw [← hbytes.unique hbytes'] at hv
    exact Document.ofBytes_eq_ok_iff.2 hv

theorem finds_patch (defaults : Option String) :
    Finds (host.patch s defaults = .ok ·) (st.GivesPatch s defaults)
      (∃ path, defaults = some path ∧ host.Blocks s path) := by
  cases defaults with
  | none =>
    refine ⟨fun p hp => (Except.ok.inj hp).symm, ?_⟩
    rintro - p rfl
    rfl
  | some path =>
    refine Finds.imp ?_ fun hblocked : host.Blocks s path => ⟨path, rfl, hblocked⟩
    have hfinds := finds_document h s path
    simp only [Host.patch]
    cases hdocument : host.document s path with
    | ok v =>
      refine ⟨fun p hp => ⟨v, hfinds.sound v hdocument, mapError_eq_ok_iff.1 hp⟩, ?_⟩
      rintro hfree p ⟨v', hv', hp⟩
      cases hdocument.symm.trans (hfinds.complete hfree v' hv')
      exact mapError_eq_ok_iff.2 hp
    | error e =>
      refine .error ?_
      rintro hfree p ⟨v, hv, -⟩
      cases hdocument.symm.trans (hfinds.complete hfree v hv)

theorem finds_request (path : String) :
    Finds (host.request s path = .ok ·) (st.GivesRequest input s path)
      (Command.namesInput path = false ∧ host.Blocks s path) := by
  unfold Host.request GivesRequest
  cases hstream : Command.namesInput path with
  | true =>
    unfold Host.inputDocument
    rw [h.input]
    cases input with
    | error fault =>
      refine .error ?_
      rintro - v ⟨bytes, hbytes, -⟩
      cases hbytes
    | ok bytes =>
      refine ⟨fun v hv => ⟨bytes, rfl, Document.ofBytes_eq_ok_iff.1 hv⟩, ?_⟩
      rintro - v ⟨_, ⟨⟩, hv⟩
      exact Document.ofBytes_eq_ok_iff.2 hv
  | false => exact (finds_document h s path).imp fun hblocked => ⟨rfl, hblocked⟩

/-- The plan that is accepted is the one that the documents give. -/
theorem finds_plan (c : Command) :
    Finds (Command.verdict host s c.request c.defaults = .accepted ·) (st.GivesPlan input s c)
      (host.BlocksCommand s c) := by
  have hpatches := (finds_patch h s c.defaults).imp fun hblocked =>
    (.inl hblocked : host.BlocksCommand s c)
  have hrequests := (finds_request h s c.request).imp fun hblocked =>
    (.inr hblocked : host.BlocksCommand s c)
  constructor
  · intro plan hplan
    obtain ⟨patch, v, hpatch, hv, hassemble⟩ :=
      Command.verdict_eq_ofOutcome_iff (o := .ok plan).1 hplan
    exact ⟨patch, v, hpatches.sound patch hpatch, hrequests.sound v hv, hassemble⟩
  · rintro hfree plan ⟨patch, v, hpatch, hv, hassemble⟩
    exact Command.verdict_eq_ofOutcome_iff (o := .ok plan).2
      ⟨patch, v, hpatches.complete hfree patch hpatch, hrequests.complete hfree v hv, hassemble⟩

end Storage

/-! ## Running a command -/

namespace Command

/-- What holds of a command that was run in the state `s`, with the output `out` and the state
`s'` after it. -/
structure AllOrNothing {σ ι : Type} (st : Storage σ ι) (host : Host (StateM σ))
    (input : Except FileFault ByteArray) (c : Command) (s s' : σ) (out : Output) : Prop where
  /-- A command that fails changes nothing, and `parse` prints nothing then. -/
  failed : out.code ≠ 0 →
    s' = s ∧ ∀ output pretty, c.action = .parse output pretty → out.stdout = ""
  /-- It fails only when there is no plan, or a file cannot be read or written. -/
  reason : out.code ≠ 0 →
    (∀ plan, ¬ st.GivesPlan input s c plan) ∨ host.BlocksCommand s c ∨
      ∃ path pretty plan fault, c.action = .parse (some path) pretty ∧
        st.GivesPlan input s c plan ∧
        (host.write path
          (if pretty then plan.toJson.pretty else plan.toJson.compact).toUTF8 s).1 =
            .error fault
  checked : ∀ json, c.action = .check json → s' = s
  /-- The text of the plan goes to the output stream, and a line feed after it. -/
  printed : ∀ pretty, c.action = .parse none pretty → out.code = 0 →
    s' = s ∧ ∃ plan, st.GivesPlan input s c plan ∧
      out.stdout = (if pretty then plan.toJson.pretty else plan.toJson.compact) ++ "\n"
  /-- The text of the plan is all that the file holds; no line feed follows it. -/
  written : ∀ path pretty, c.action = .parse (some path) pretty → out.code = 0 →
    out.stdout = "" ∧ ∃ plan, st.GivesPlan input s c plan ∧
      st.Writes s s' path
        (if pretty then plan.toJson.pretty else plan.toJson.compact).toUTF8

section

variable {σ ι : Type} {st : Storage σ ι} {host : Host (StateM σ)}
variable {input : Except FileFault ByteArray}

/-- Without a plan there was none to find, or something could not be read. -/
theorem reason_of_exitCode_ne {c : Command} {s : σ} {v : Verdict} {P : Prop}
    (hv : Finds (v = .accepted ·) (st.GivesPlan input s c) (host.BlocksCommand s c))
    (hne : v.exitCode ≠ 0) :
    (∀ plan, ¬ st.GivesPlan input s c plan) ∨ host.BlocksCommand s c ∨ P := by
  by_cases hblocked : host.BlocksCommand s c
  · exact .inr (.inl hblocked)
  · refine .inl fun plan hplan => hne ?_
    rw [hv.complete hblocked plan hplan]
    rfl

theorem act_of_exitCode_ne {v : Verdict} (hne : v.exitCode ≠ 0) (output : Option String)
    (pretty : Bool) (s : σ) :
    act host (.parse output pretty) v s = (⟨v.exitCode, "", v.complaint⟩, s) := by
  cases v with
  | accepted plan => exact absurd rfl hne
  | badDefaults e | badRequest e | rejected r => rfl

theorem writePlan_ok {path text : String} {s : σ}
    (h : (host.write path text.toUTF8 s).1 = .ok ()) :
    writePlan host (some path) text s = (⟨0, "", ""⟩, (host.write path text.toUTF8 s).2) := by
  dsimp only [writePlan]
  rw [stateM_bind, h]
  rfl

theorem writePlan_error {path text : String} {s : σ} {fault : FileFault}
    (h : (host.write path text.toUTF8 s).1 = .error fault) :
    writePlan host (some path) text s =
      (⟨3, "", line ("Error writing to " ++ path ++ ": " ++ fault.text)⟩,
        (host.write path text.toUTF8 s).2) := by
  dsimp only [writePlan]
  rw [stateM_bind, h]
  rfl

/-- Writing a plan is all or nothing. -/
theorem writePlan_all_or_nothing (h : st.Serves host input) {verbose pretty : Bool}
    {request : String} {defaults output : Option String} {s : σ} {plan : Plan}
    (hplan : st.GivesPlan input s ⟨verbose, request, defaults, .parse output pretty⟩ plan) :
    AllOrNothing st host input ⟨verbose, request, defaults, .parse output pretty⟩ s
      (writePlan host output (planText pretty plan) s).2
      (writePlan host output (planText pretty plan) s).1 := by
  cases output with
  | none =>
    refine {
      failed := fun hne => absurd rfl hne
      reason := fun hne => absurd rfl hne
      checked := nofun
      printed := ?_
      written := nofun }
    rintro _ ⟨⟩ -
    exact ⟨rfl, plan, hplan, rfl⟩
  | some path =>
    cases hwrite : (host.write path (planText pretty plan).toUTF8 s).1 with
    | ok =>
      rw [writePlan_ok hwrite]
      refine {
        failed := fun hne => absurd rfl hne
        reason := fun hne => absurd rfl hne
        checked := nofun
        printed := nofun
        written := ?_ }
      rintro _ _ ⟨⟩ -
      exact ⟨rfl, plan, hplan, h.writes s path _ hwrite⟩
    | error fault =>
      rw [writePlan_error hwrite]
      exact {
        failed := fun _ => ⟨h.fails s path _ fault hwrite, fun _ _ _ => rfl⟩
        reason := fun _ => .inr (.inr ⟨path, pretty, plan, fault, rfl, hplan, hwrite⟩)
        checked := nofun
        printed := nofun
        written := nofun }

/-- Acting on a verdict is all or nothing. -/
theorem act_all_or_nothing (h : st.Serves host input) (c : Command) (s : σ) {v : Verdict}
    (hv : Finds (v = .accepted ·) (st.GivesPlan input s c) (host.BlocksCommand s c)) :
    AllOrNothing st host input c s (act host c.action v s).2 (act host c.action v s).1 := by
  obtain ⟨verbose, request, defaults, action⟩ := c
  cases action with
  | check json =>
    have hcode : (v.report json).code = v.exitCode := by cases json <;> rfl
    exact {
      failed := fun _ => ⟨rfl, nofun⟩
      reason := fun hne => reason_of_exitCode_ne hv (hcode ▸ hne)
      checked := fun _ _ => rfl
      printed := nofun
      written := nofun }
  | parse output pretty =>
    by_cases hcode : v.exitCode = 0
    · obtain ⟨plan, rfl⟩ := v.exitCode_eq_zero_iff.1 hcode
      exact writePlan_all_or_nothing h (hv.sound plan rfl)
    · rw [act_of_exitCode_ne hcode]
      exact {
        failed := fun _ => ⟨rfl, fun _ _ _ => rfl⟩
        reason := reason_of_exitCode_ne hv
        checked := nofun
        printed := fun _ _ hzero => absurd hzero hcode
        written := fun _ _ _ hzero => absurd hzero hcode }

theorem run_all_or_nothing (h : st.Serves host input) (logSetting : Option String)
    (c : Command) (s : σ) :
    AllOrNothing st host input c s (run host logSetting c s).2 (run host logSetting c s).1 := by
  have hact := act_all_or_nothing h c s (Storage.finds_plan h s c)
  rw [h.run_eq]
  -- what comes after acting are log lines, and they go to the error stream
  exact ⟨hact.failed, hact.reason, hact.checked, hact.printed, hact.written⟩

/-- **All or nothing.** Whatever the surroundings hold, a command line that is accepted ends
with an output. A command that fails has changed nothing. One that writes to a file has
written the text of the plan that the old contents give, compact or pretty, to this file and
to no other, also when the file is one of those it read; one that writes to the output stream
has written this text and a line feed and changed nothing, and `check` changes nothing,
whatever its verdict. A command line that runs no command changes nothing either. -/
theorem runArguments_all_or_nothing (h : st.Serves host input) (logSetting : Option String)
    (words : List String) (s : σ) :
    (∀ c, Invocation.ofArguments words = some (.run c) →
      ∃ out s', runArguments host logSetting words s = (some out, s') ∧
        AllOrNothing st host input c s s' out) ∧
    ((∀ c, Invocation.ofArguments words ≠ some (.run c)) →
      (runArguments host logSetting words s).2 = s) := by
  unfold runArguments
  cases Invocation.ofArguments words with
  | none => exact ⟨nofun, fun _ => rfl⟩
  | some invocation =>
    cases invocation with
    | help | version => exact ⟨nofun, fun _ => rfl⟩
    | run c =>
      refine ⟨?_, fun hother => absurd rfl (hother c)⟩
      rintro _ ⟨⟩
      exact ⟨_, _, rfl, run_all_or_nothing h logSetting c s⟩

end

namespace Transactions

/-- A request that can be read as defaults, too. -/
def store : Files :=
  (Files.fresh.addDirectory "d").addFile "p.json" "\x7b\"limit\": 5, \"page\": 2\x7d".toUTF8

/-- The store, with nothing in the input stream. All texts are JSON, so that nothing is to be
said about them. -/
def host : Host (StateM Files) := Files.host (.ok .empty) fun _ => ""

def inPlace : List String :=
  ["parse", "./p.json", "--defaults", "p.json", "--output=d/../p.json", "--pretty"]

def toStream : List String := ["parse", "p.json"]

def intoDirectory : List String := ["-v", "parse", "p.json", "--output", "d"]

/-- The plan of the request, on several lines. -/
def prettyText : String :=
  "\x7b\n  \"includes\": [],\n  \"modes\": \x7b\x7d,\n  \"sort\": [],\n  \"limit\": 5,\n  \"page\": 2,\n"
    ++ "  \"filter_groups\": [],\n  \"group_by\": \"\",\n  \"selects\": \"\"\n\x7d"

/-- The same plan, on one line. -/
def compactText : String :=
  "\x7b\"includes\":[],\"modes\":\x7b\x7d,\"sort\":[],\"limit\":5,\"page\":2,"
    ++ "\"filter_groups\":[],\"group_by\":\"\",\"selects\":\"\"\x7d"

theorem serves : Files.storage.Serves host (.ok .empty) := Files.serves _ _

end Transactions

/-- One file is the request, the defaults and the output, under three paths. The plan of the
request is also printed, in its other form. A directory is no output. -/
theorem runArguments_all_or_nothing_in_place :
    (∃ out files plan,
      runArguments Transactions.host none Transactions.inPlace Transactions.store =
        (some out, files) ∧ out.code = 0 ∧ out.stdout = "" ∧
      Files.storage.GivesPlan (.ok .empty) Transactions.store
        ⟨false, "./p.json", some "p.json", .parse (some "d/../p.json") true⟩ plan ∧
      Files.storage.Writes Transactions.store files "d/../p.json" plan.toJson.pretty.toUTF8 ∧
      files.read "d/../p.json" = .ok Transactions.prettyText.toUTF8) ∧
    Transactions.store.named "p.json" = some ["work", "p.json"] ∧
    Transactions.store.named "d/../p.json" = some ["work", "p.json"] ∧
    (∃ out, runArguments Transactions.host none Transactions.toStream Transactions.store =
      (some out, Transactions.store) ∧ out.code = 0 ∧
      out.stdout = Transactions.compactText ++ "\n") ∧
    ∃ out, runArguments Transactions.host none Transactions.intoDirectory Transactions.store =
      (some out, Transactions.store) ∧ out.code = 3 := by
  refine ⟨?_, by decide +kernel, by decide +kernel, ?_, ?_⟩
  · have hcode : (runArguments Transactions.host none Transactions.inPlace
        Transactions.store).1.map Output.code = some 0 := by
      decide +kernel
    have hread : (runArguments Transactions.host none Transactions.inPlace
        Transactions.store).2.read "d/../p.json" = .ok Transactions.prettyText.toUTF8 := by
      decide +kernel
    obtain ⟨hrun, -⟩ := runArguments_all_or_nothing Transactions.serves none
      Transactions.inPlace Transactions.store
    obtain ⟨out, files, hout, hall⟩ := hrun
      ⟨false, "./p.json", some "p.json", .parse (some "d/../p.json") true⟩ (by decide +kernel)
    rw [hout] at hcode hread
    have hzero : out.code = 0 := Option.some.inj hcode
    obtain ⟨hstdout, plan, hplan, hwrites⟩ := hall.written _ _ rfl hzero
    exact ⟨out, files, plan, hout, hzero, hstdout, hplan, hwrites, hread⟩
  · have hprinted : (runArguments Transactions.host none Transactions.toStream
        Transactions.store).1 = some ⟨0, Transactions.compactText ++ "\n", ""⟩ := by
      decide +kernel
    obtain ⟨hrun, -⟩ := runArguments_all_or_nothing Transactions.serves none
      Transactions.toStream Transactions.store
    obtain ⟨out, files, hout, hall⟩ := hrun
      ⟨false, "p.json", none, .parse none false⟩ (by decide +kernel)
    rw [hout] at hprinted
    obtain rfl := Option.some.inj hprinted
    obtain ⟨rfl, -⟩ := hall.printed _ rfl rfl
    exact ⟨_, hout, rfl, rfl⟩
  · have hcode : (runArguments Transactions.host none Transactions.intoDirectory
        Transactions.store).1.map Output.code = some 3 := by
      decide +kernel
    obtain ⟨hrun, -⟩ := runArguments_all_or_nothing Transactions.serves none
      Transactions.intoDirectory Transactions.store
    obtain ⟨out, files, hout, hall⟩ := hrun
      ⟨true, "p.json", none, .parse (some "d") false⟩ (by decide +kernel)
    rw [hout] at hcode
    have hthree : out.code = 3 := Option.some.inj hcode
    have hne : out.code ≠ 0 := by
      rw [hthree]
      decide
    obtain ⟨rfl, -⟩ := hall.failed hne
    exact ⟨out, hout, hthree⟩

end Command

end FetchPlan
