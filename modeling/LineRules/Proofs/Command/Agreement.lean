/-
Checking and composing agree. The two commands report from different sources: one prints the session's report and
the other the plans that the recorder holds in the end. Main statement: with the same options both end with the
same exit code, which tells whether the settings and the rules could be loaded and every rule was committed; and
as JSON, both documents name the same rules and the same failures.
-/
import LineRules.Command
import LineRules.Proofs.Document.RoundTrip
import LineRules.Proofs.Session.Report

namespace LineRules

open Json

/-! ## Printed documents -/

theorem Pos.plain_sortedJson (p : Pos) : Plain p.sortedJson := .record (by simp [Plain.natural])

theorem Literal.plain_toJson (l : Literal) : Plain l.toJson := by
  cases l <;> exact .record (by simp [Plain.string])

theorem Op.plain_toJson (op : Op) : Plain op.toJson := by
  cases op <;>
    exact .record (by simp [Plain.string, Plain.natural, Plain.bool, Pos.plain_sortedJson, Literal.plain_toJson])

theorem Plan.plain_toJson (p : Plan) : Plain p.toJson := by
  have ops : Plain (.list (p.ops.map Op.toJson)) := .list (List.forall_mem_map.2 fun op _ => op.plain_toJson)
  exact .record (by simp [Plain.string, ops, p.pos.plain_sortedJson])

theorem RuleError.plain_toJson (e : RuleError) : Plain e.toJson := .record (by simp [Plain.string, Plain.natural])

namespace Command

theorem plain_failuresJson (r : Report) : Plain (failuresJson r) :=
  .list (List.forall_mem_map.2 fun e _ => e.plain_toJson)

/-! ## The course of a command -/

/-- The rule set of a command. -/
def loadRules (files : Files Id) (i : Invocation) : Except LoadError RuleSet := RuleSet.load i.file (files.read i.file)

/-- The naming policy of a command. -/
def policyOf (i : Invocation) (settings : Settings) : NamingPolicy := i.naming.getD settings.policy

/-- The session of a command over loaded rules. -/
def sessionOf (i : Invocation) (settings : Settings) (rules : RuleSet) : Session Recorder :=
  Session.run Recorder.emitter (policyOf i settings).normalize (i.keepGoing || settings.keepGoing) rules.rules {}

/-- In the end of the session the recorder holds the plan of every rule. -/
def AllCommitted (i : Invocation) (settings : Settings) (rules : RuleSet) : Prop :=
  List.Forall₂ (Session.PlanOf (policyOf i settings).normalize) rules.rules (sessionOf i settings rules).state.plans

/-- The exit code of a command that comes to its session. -/
def sessionCode (i : Invocation) (settings : Settings) (rules : RuleSet) : Nat :=
  if (sessionOf i settings rules).report.isOk then 0 else 1

section

variable (i : Invocation) (settings : Settings) (rules : RuleSet)

theorem sessionCode_eq_zero_iff : sessionCode i settings rules = 0 ↔ AllCommitted i settings rules := by
  rw [AllCommitted, sessionOf, ← Session.isOk_run_iff, sessionCode, sessionOf]
  split <;> simp_all

theorem sessionCode_eq_one_iff : sessionCode i settings rules = 1 ↔ ¬ AllCommitted i settings rules := by
  rw [← sessionCode_eq_zero_iff, sessionCode]
  split <;> simp

theorem sessionCode_ne_two : sessionCode i settings rules ≠ 2 := by
  rw [sessionCode]
  split <;> simp

end

/-- The output of a session. -/
def outputOf (i : Invocation) (s : Session Recorder) : String :=
  match i.verb with
  | .compose => (composeResult i s).1
  | .check => (checkResult i s.report).1

variable (filter : Journal.Filter) {i : Invocation}

theorem runInvocation_eq (files : Files Id) (i : Invocation) (verb : Verb) :
    runInvocation files filter { i with verb := verb } =
      match (loadSettings files i).run with
      | .error e => .finished 2 "" (errorText i e.message)
      | .ok settings =>
        match loadRules files i with
        | .error e => .finished 1 "" (errorText i e.message)
        | .ok rules => runSession { i with verb := verb } filter settings rules := rfl

theorem runSession_eq (i : Invocation) (settings : Settings) (rules : RuleSet) :
    ∃ messages, runSession i filter settings rules =
      .finished (sessionCode i settings rules) (outputOf i (sessionOf i settings rules)) messages := by
  unfold runSession outputOf
  cases i.verb with
  | compose => exact ⟨_, rfl⟩
  | check => exact ⟨_, rfl⟩

/-! ## The documents -/

theorem read_composeResult (h : i.output = .json) (s : Session Recorder) :
    Json.read (composeResult i s).1 = {
      root := .record [("failures", failuresJson s.report), ("rules", .list (s.state.plans.map Plan.toJson))] } := by
  have rules : Plain (.list (s.state.plans.map Plan.toJson)) :=
    .list (List.forall_mem_map.2 fun p _ => p.plain_toJson)
  rw [composeResult, h]
  exact read_pretty_line (.record (by simp [plain_failuresJson, rules]))

theorem read_checkResult (h : i.output = .json) (r : Report) :
    Json.read (checkResult i r).1 = {
      root := .record [
        ("composed", .list (r.composed.map .string)), ("failures", failuresJson r),
        ("skipped", .natural (UInt64.ofNat r.skipped))] } := by
  have composed : Plain (.list (r.composed.map .string)) := .list (List.forall_mem_map.2 fun _ _ => .string _)
  rw [checkResult, h]
  exact read_pretty_line (.record (by simp [plain_failuresJson, composed, Plain.natural]))

/-- The document of a check and the document with the plans, for a session over so many rules: the rules that the
one names are those whose plans are in the other, in order, both have the same failures, and the numbers of rules
composed, failed and skipped add up. -/
def DocumentsAgree (count : Nat) (checked composed : String) : Prop :=
  ∃ (names : List String) (failures plans : List Json) (skipped : Nat),
    Json.read checked = {
      root := .record [
        ("composed", .list (names.map .string)), ("failures", .list failures),
        ("skipped", .natural (UInt64.ofNat skipped))] } ∧
    Json.read composed = { root := .record [("failures", .list failures), ("rules", .list plans)] } ∧
    plans.map (Json.get? "name") = names.map (some ∘ Json.string) ∧
    names.length + failures.length + skipped = count

theorem documentsAgree_session (h : i.output = .json) (settings : Settings) (rules : RuleSet) :
    DocumentsAgree rules.rules.length (checkResult i (sessionOf i settings rules).report).1
      (composeResult i (sessionOf i settings rules)).1 := by
  refine ⟨_, _, _, _, read_checkResult h _, read_composeResult h _, ?_, ?_⟩
  · rw [sessionOf, Session.composed_run, List.map_map, List.map_map]
    rfl
  · rw [List.length_map]
    exact Session.tally_visit Recorder.emitter _ _ rules.rules {}

/-! ## Two commands with the same options -/

/-- If two command lines ask for a check and for the plans, with the same file and the same options, both commands
end with the same exit code. It is 2 if the settings cannot be loaded, else 1 if the rules cannot be loaded or some
rule is not committed, and else 0. As JSON, if there was a session, the check names the rules whose plans are
printed, in the same order, both name the same failures, and every rule of the file is counted once. -/
theorem check_predicts_compose (files : Files Id) (environment : Option String) (i : Invocation)
    {checking composing : List String} (hcheck : Request.ofArguments checking = .run { i with verb := .check })
    (hcompose : Request.ofArguments composing = .run { i with verb := .compose }) :
    ∃ code checked composed messages messages',
      run files environment checking = .finished code checked messages ∧
      run files environment composing = .finished code composed messages' ∧
      (code = 2 ↔ ∃ e, (loadSettings files i).run = .error e) ∧
      (code = 1 ↔ ∃ settings, (loadSettings files i).run = .ok settings ∧
        ∀ rules, loadRules files i = .ok rules → ¬ AllCommitted i settings rules) ∧
      (code = 0 ↔ ∃ settings rules, (loadSettings files i).run = .ok settings ∧ loadRules files i = .ok rules ∧
        AllCommitted i settings rules) ∧
      (i.output = .json → ∀ settings rules,
        (loadSettings files i).run = .ok settings → loadRules files i = .ok rules →
        DocumentsAgree rules.rules.length checked composed) := by
  rw [run, run, hcheck, hcompose]
  dsimp only
  rw [runInvocation_eq _ files i .check, runInvocation_eq _ files i .compose]
  rcases (loadSettings files i).run with e | settings
  · exact ⟨2, _, _, _, _, rfl, rfl, by simp⟩
  rcases loadRules files i with e | rules
  · exact ⟨1, _, _, _, _, rfl, rfl, by simp⟩
  · have answers := runSession_eq (filterOf environment i.verbose)
    obtain ⟨messages, checked⟩ := answers { i with verb := .check } settings rules
    obtain ⟨messages', composed⟩ := answers { i with verb := .compose } settings rules
    refine ⟨sessionCode i settings rules, _, _, messages, messages', checked, composed, ?_, ?_, ?_, ?_⟩
    · simp [sessionCode_ne_two]
    · simp [sessionCode_eq_one_iff]
    · simp [sessionCode_eq_zero_iff]
    · rintro json _ _ ⟨⟩ ⟨⟩
      exact documentsAgree_session json settings rules

/-- Two rules of one name, of which the second comes too late. -/
def sameName : RuleSet where
  rules := [{ name := "access", actions := [.step {} .atEnd] }, { name := "access" }]

/-- A directory with a rule set and without settings. -/
def directory (rules : RuleSet) : Files Id where
  read path := if path = "rules.json" then .ok rules.toJson.compact else .error .notFound
  isFile path := path == "rules.json"

theorem check_predicts_compose_same_name :
    Request.ofArguments ["check", "rules.json", "--output=json"] =
        .run { verb := .check, file := "rules.json", output := .json } ∧
      Request.ofArguments ["--output", "json", "compose", "rules.json"] =
        .run { verb := .compose, file := "rules.json", output := .json } ∧
      ∃ checked composed messages messages',
        run (directory sameName) none ["check", "rules.json", "--output=json"] = .finished 1 checked messages ∧
        run (directory sameName) none ["--output", "json", "compose", "rules.json"] =
          .finished 1 composed messages' ∧
        DocumentsAgree 2 checked composed := by
  let i : Invocation := { verb := .check, file := "rules.json", output := .json }
  have hcheck : Request.ofArguments ["check", "rules.json", "--output=json"] = .run i := by decide +kernel
  have hcompose : Request.ofArguments ["--output", "json", "compose", "rules.json"] =
      .run { i with verb := .compose } := by decide +kernel
  have loaded : loadRules (directory sameName) i = .ok sameName := by
    have kinds : sameName.Canonical := by
      simp [RuleSet.Canonical, sameName, Action.limitsAll, Action.limits, Step.limit?]
    exact RuleSet.load_of_read kinds (by decide +kernel) (read_compact sameName.plain_toJson) "rules.json"
  obtain ⟨code, checked, composed, messages, messages', h, h', -, failed, -, documents⟩ :=
    check_predicts_compose (directory sameName) none i hcheck hcompose
  have one : code = 1 := by
    refine failed.2 ⟨{}, rfl, fun rules hr => ?_⟩
    obtain rfl : sameName = rules := Except.ok.inj (loaded.symm.trans hr)
    exact (sessionCode_eq_one_iff i {} sameName).1 (by decide +kernel)
  subst one
  exact ⟨hcheck, hcompose, checked, composed, messages, messages', h, h', documents rfl {} sameName rfl loaded⟩

end Command

end LineRules
