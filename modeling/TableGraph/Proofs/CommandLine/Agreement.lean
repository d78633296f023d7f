/-
The command and the analysis of a text say the same.

A text is analysed by `analyzeSchema`, which gives JSON or says what is wrong, and by the command,
which ends with an exit code and text for the standard output.  Each of them has its own way to
the names of dialects, to the usual figures and the usual arrangement, to the form of the JSON and
to what becomes of an error.  They meet where the command is asked for the nodes to be placed and
for compact JSON, and for nothing else but the dialect.

On the side of the command two things stand in between.  One is its surroundings: a run from the
standard input to the standard output does nothing but read, so how it ends is a function of the
text, `Request.outcome`.  The other is its exit code, which tells errors in the text from all
others.  That a failure always has the code 2 holds because the analysis of a text fails in no
other way.
-/
import Mathlib.Data.List.TakeWhile
import TableGraph.CommandLine.Run
import TableGraph.Proofs.Text.Lowercase

namespace TableGraph

open Text

/-! ### Names of dialects -/

namespace Sql.DialectChoice

/-- The names of the choices, in lower case. -/
def names : List String :=
  ["auto", "generic", "ansi", "postgres", "postgresql", "pg", "mysql", "mariadb", "sqlite",
    "sqlite3"]

/-- A name is accepted just if it is one of these in some case. -/
theorem isSome_ofName?_iff {name : String} : (ofName? name).isSome ↔ lowercase name ∈ names := by
  unfold ofName? names
  generalize lowercase name = lowered
  grind

/-- A name that is accepted does not look like an option. -/
theorem toList_ne_dash_cons {name : String} (h : (ofName? name).isSome) (rest : List Char) :
    name.toList ≠ '-' :: rest := by
  intro hdash
  have hletter : ∀ n ∈ names, n.toList.head? ≠ some '-' := by decide +kernel
  refine hletter _ (isSome_ofName?_iff.mp h) ?_
  rw [lowercase, String.toList_ofList, hdash, lowerAfter_cons_of_lt (by decide)]
  rfl

end Sql.DialectChoice

/-! ### Failures of the analysis -/

/-- Trimming leaves nothing just if there is nothing but white space. -/
theorem Text.trim_eq_empty_iff {s : String} : trim s = "" ↔ isBlankText s := by
  have hlist : trim s = "" ↔ (s.toList.dropWhile isBlank).reverse.dropWhile isBlank = [] := by
    rw [trim, ← String.toList_inj]
    simp
  rw [hlist, List.dropWhile_eq_nil_iff, isBlankText, List.all_eq_true]
  simp only [List.mem_reverse]
  constructor
  · intro h c hc
    rw [← List.takeWhile_append_dropWhile (p := isBlank) (l := s.toList)] at hc
    rcases List.mem_append.mp hc with hfront | hrest
    · exact List.mem_takeWhile_imp hfront
    · exact h c hrest
  · intro h c hc
    exact h c ((List.dropWhile_suffix isBlank).mem hc)

/-- A text counts as missing just if trimming leaves nothing of it. -/
theorem Analysis.ofText_eq_missingInput_iff {choice : Sql.DialectChoice}
    {options : Statistics.Options} {source : String} :
    ofText choice options source = .error .missingInput ↔ trim source = "" := by
  rw [Text.trim_eq_empty_iff, ofText]
  split
  · simp [*]
  · split <;> simp [*]

/-- **The analysis of a text fails** only where the text is at fault. -/
theorem Analysis.isInput_of_ofText_eq_error {choice : Sql.DialectChoice}
    {options : Statistics.Options} {source : String} {e : AnalysisError}
    (h : ofText choice options source = .error e) : e.isInput := by
  unfold ofText at h
  split at h
  · cases h
    rfl
  · split at h
    · cases h
    · cases h
      rfl

namespace CommandLine

/-! ### Arguments -/

/-- A value that does not look like an option goes to the setting that waits for one. -/
theorem read_value {r : Reading} {s : Setting} {value : String} (hoptions : r.inputOnly = false)
    (hpending : r.pending = some s) (hvalue : ∀ rest, value.toList ≠ '-' :: rest) :
    r.read value = (r.given.set s value).map fun given => { r with given, pending := none } := by
  unfold Reading.read
  rw [if_neg (by simp [hoptions]), hpending]
  split
  · rename_i hdash
    exact absurd hdash (hvalue _)
  · rename_i hsetting _
    cases hsetting
    rfl
  -- In the other cases no setting waits for a value.
  all_goals contradiction

/-- The reading goes on with the other arguments. -/
theorem foldlM_read_cons {r r' : Reading} {argument : String} (rest : List String)
    (h : r.read argument = .ok r') :
    (argument :: rest).foldlM Reading.read r = rest.foldlM Reading.read r' := by
  rw [List.foldlM_cons, h]
  rfl

/-- The request to place the nodes and to write compact JSON. -/
def Request.placedCompact (choice : Sql.DialectChoice) : Request :=
  { dialect := choice, layout := true, compact := true }

theorem parseArguments_placedCompact {name : String} {choice : Sql.DialectChoice}
    (h : Sql.DialectChoice.ofName? name = some choice) :
    parseArguments ["--dialect", name, "--layout", "--compact"]
      = .ok (.run (.placedCompact choice)) := by
  have hoption : Reading.read {} "--dialect" = .ok { pending := some .dialect } := rfl
  have hset : Given.set {} .dialect name = .ok { dialect := some choice } := by
    simp only [Given.set, Given.put, h]
  have hvalue : Reading.read { pending := some .dialect } name
      = .ok { given := { dialect := some choice } } := by
    rw [read_value rfl rfl (Sql.DialectChoice.toList_ne_dash_cons (by simp [h])), hset]
    rfl
  have hswitches : ["--layout", "--compact"].foldlM Reading.read
      { given := { dialect := some choice } }
        = .ok { given := { dialect := some choice, layout := true, compact := true } } := rfl
  rw [parseArguments, foldlM_read_cons _ hoption, foldlM_read_cons _ hvalue, hswitches]
  rfl

/-! ### Runs -/

namespace Request

/-- How a run ends that has this text for its input and no file to write. -/
def outcome (r : Request) (source : String) : Outcome :=
  match r.analyze source with
  | .ok a => .success (r.render a ++ "\n")
  | .error e => .ofError e

/-- How such a run ends for an input of these bytes. -/
def outcomeOfBytes (r : Request) (bytes : ByteArray) : Outcome :=
  match decode bytes with
  | .ok source => r.outcome source
  | .error e => .failure 1 ("Failed to read stdin: " ++ e.message)

/-- **A run from the standard input to the standard output** does nothing but read, whatever its
surroundings. -/
theorem run_eq_map_readInput {m : Type → Type} [Monad m] [LawfulMonad m] (s : Surroundings m)
    {r : Request} (hinput : r.input = standardInput) (houtput : r.output = none) :
    r.run s = r.outcomeOfBytes <$> s.readInput := by
  have hread : readSource s r.input = (fun bytes => (decode bytes).mapError
      fun e => "Failed to read stdin: " ++ e.message) <$> s.readInput := by
    rw [readSource, hinput, if_pos (by decide)]
    simp
  rw [run, hread, map_eq_pure_bind, bind_assoc, map_eq_pure_bind]
  refine bind_congr fun bytes => ?_
  rw [pure_bind, outcomeOfBytes, houtput]
  cases decode bytes with
  | error e => rfl
  | ok source =>
      simp only [Except.mapError, outcome]
      cases r.analyze source <;> rfl

/-- The text of the input is what its bytes were made from. -/
theorem decode_toUTF8 (text : String) : decode text.toUTF8 = .ok text := by
  have htext : String.fromUTF8? text.toUTF8 = some text := by
    simp only [String.fromUTF8?, String.toUTF8_eq_toByteArray, dif_pos text.isValidUTF8]
    rfl
  rw [decode, htext]

/-- In a folder, too, such a run ends as its text says, and it leaves the folder as it was. -/
theorem run_folder {r : Request} (hinput : r.input = standardInput) (houtput : r.output = none)
    {folder : Folder} {source : String} (hsource : folder.input = source.toUTF8) :
    (r.run Folder.surroundings).run folder = (r.outcome source, folder) := by
  rw [run_eq_map_readInput Folder.surroundings hinput houtput, StateT.run_map]
  show (r.outcomeOfBytes folder.input, folder) = (r.outcome source, folder)
  rw [outcomeOfBytes, hsource, decode_toUTF8]

/-- The nodes are placed as they usually are, and the JSON is compact. -/
theorem outcome_placedCompact (choice : Sql.DialectChoice) (source : String) :
    (placedCompact choice).outcome source
      = match Analysis.ofText choice {} source with
        | .ok a => .success ((a.layOut Layout.standard).toJson.compact ++ "\n")
        | .error e => .ofError e := by
  have hanalyze : (placedCompact choice).analyze source
      = (Analysis.ofText choice {} source).map fun a => a.layOut Layout.standard := by
    show (do return (← Analysis.ofText choice {} source).layOut Layout.standard) = _
    cases Analysis.ofText choice {} source <;> rfl
  rw [outcome, hanalyze]
  cases Analysis.ofText choice {} source <;> rfl

end Request

/-- The exit code tells that the text is at fault. -/
theorem Outcome.code_ofError {e : AnalysisError} (h : e.isInput) : (ofError e).code = 2 := by
  rw [ofError, if_pos h]
  rfl

theorem analyzeSchema_some {name : String} {choice : Sql.DialectChoice}
    (h : Sql.DialectChoice.ofName? name = some choice) (source : String) :
    analyzeSchema source (some name)
      = match Analysis.ofText choice {} source with
        | .ok a => .ok (a.layOut Layout.standard).toJson.compact
        | .error e => .error e.message := by
  unfold analyzeSchema
  simp only [h]
  rfl

/--
**The command and `analyzeSchema` agree**, for every text and every name of a dialect.  The command
ends well with some JSON and a line feed just if `analyzeSchema` gives this JSON, and it ends with
the code 2 and nothing on the standard output just if `analyzeSchema` fails.  It touches no file.
-/
theorem analyzeSchema_agrees {name : String} {choice : Sql.DialectChoice}
    (hname : Sql.DialectChoice.ofName? name = some choice) (source : String) (folder : Folder)
    (hsource : folder.input = source.toUTF8) :
    let request : Request := { dialect := choice, layout := true, compact := true }
    parseArguments ["--dialect", name, "--layout", "--compact"] = .ok (.run request) ∧
      ∀ arguments, parseArguments arguments = .ok (.run request) →
        ∃ outcome, (execute Folder.surroundings arguments).run folder = (outcome, folder) ∧
          (∀ json, analyzeSchema source (some name) = .ok json ↔
            outcome.code = 0 ∧ outcome.stdout = json ++ "\n") ∧
          ((∃ text, analyzeSchema source (some name) = .error text) ↔
            outcome.code = 2 ∧ outcome.stdout = "") := by
  intro request
  refine ⟨parseArguments_placedCompact hname, fun arguments harguments => ?_⟩
  have hrun : (execute Folder.surroundings arguments).run folder
      = ((Request.placedCompact choice).outcome source, folder) := by
    rw [execute, harguments]
    exact Request.run_folder rfl rfl hsource
  refine ⟨_, hrun, ?_⟩
  rw [Request.outcome_placedCompact, analyzeSchema_some hname]
  cases htext : Analysis.ofText choice {} source with
  | ok a => simp [Outcome.success]
  | error e =>
      have hcode : (Outcome.ofError e).code = 2 :=
        Outcome.code_ofError (Analysis.isInput_of_ofText_eq_error htext)
      refine ⟨fun json => iff_of_false nofun ?_, iff_of_true ⟨_, rfl⟩ ⟨hcode, rfl⟩⟩
      rintro ⟨hzero, -⟩
      rw [hcode] at hzero
      cases hzero

/-- A script and a text of nothing but blanks, from the standard input although a file has the name
that stands for it. -/
theorem analyzeSchema_agrees_blank :
    let folder (source : String) : Folder := { input := source.toUTF8, files := [("-", "x")] }
    let arguments := ["--compact", "-dPostgres", "-v", "--layout"]
    let script := "CREATE TABLE users (id SERIAL PRIMARY KEY);"
    (∃ outcome, (execute Folder.surroundings arguments).run (folder script)
        = (outcome, folder script) ∧ outcome.code = 0 ∧
          ∃ json, analyzeSchema script (some "Postgres") = .ok json ∧
            outcome.stdout = json ++ "\n") ∧
      ∃ outcome, (execute Folder.surroundings arguments).run (folder " \n")
        = (outcome, folder " \n") ∧ outcome.code = 2 ∧ outcome.stdout = "" ∧
          analyzeSchema " \n" (some "Postgres") = .error "No SQL source supplied" := by
  intro folder arguments script
  have hname : Sql.DialectChoice.ofName? "Postgres" = some (.fixed .postgresql) := by
    decide +kernel
  have harguments : parseArguments arguments
      = .ok (.run { dialect := .fixed .postgresql, layout := true, compact := true }) := by
    decide +kernel
  have hanalyzed : (analyzeSchema script (some "Postgres")).isOk := by decide +kernel
  have hblank : analyzeSchema " \n" (some "Postgres") = .error "No SQL source supplied" := by
    decide +kernel
  constructor
  · obtain ⟨outcome, hrun, hok, -⟩ :=
      (analyzeSchema_agrees hname script (folder script) rfl).2 arguments harguments
    cases hjson : analyzeSchema script (some "Postgres") with
    | error text =>
        rw [hjson] at hanalyzed
        cases hanalyzed
    | ok json =>
        obtain ⟨hcode, hstdout⟩ := (hok json).mp hjson
        exact ⟨outcome, hrun, hcode, json, rfl, hstdout⟩
  · obtain ⟨outcome, hrun, -, herror⟩ :=
      (analyzeSchema_agrees hname " \n" (folder " \n") rfl).2 arguments harguments
    obtain ⟨hcode, hstdout⟩ := herror.mp ⟨_, hblank⟩
    exact ⟨outcome, hrun, hcode, hstdout, hblank⟩

end CommandLine

end TableGraph
